import MulticaOS.TaskQueue.Retries

/-!
`FailTask`: when it takes effect, and when the retry it inserts in the same transaction
undoes the failure.
-/

namespace MulticaOS.TaskQueue

section Failing

variable {db : Db} {task : Task} {error : String} {reason : FailureReason} {report : SessionReport}
  {overlay : Overlay}

def failedTable (db : Db) (task : Task) (error : String) (reason : FailureReason)
    (report : SessionReport) : List Task :=
  TableLib.updateWhere (fun row => row.id = task.id && row.status.active)
    (Task.fail db.now error reason report) db.tasks

def retryBlocked (db : Db) (reason : FailureReason) (task : Task) : Bool :=
  retryEligible reason task && retryDelayForAttempt reason task.attempt = 0 &&
    db.tasks.any fun other => other.id ≠ task.id && other.status.pending && other.samePair task

theorem mem_failedTable (unique : (db.tasks.map Task.id).Nodup) (member : task ∈ db.tasks)
    (active : task.status.active = true) {row : Task} :
    row ∈ failedTable db task error reason report ↔
      (row ∈ db.tasks ∧ row ≠ task) ∨ row = task.fail db.now error reason report :=
  TableLib.mem_updateWhere_one member (only_row unique member active)

theorem failAgentTask_active (wellFormed : WellFormed db) (member : task ∈ db.tasks)
    (active : task.status.active = true) :
    failAgentTask db task.id error reason report =
      .ok ({ db with tasks := failedTable db task error reason report },
        task.fail db.now error reason report) :=
  updateOne_ends wellFormed.pending member (only_row wellFormed.unique member active) (fun _ => rfl)
    fun _ => rfl

theorem failAgentTask_terminal (unique : (db.tasks.map Task.id).Nodup) (member : task ∈ db.tasks)
    (terminal : task.status.terminal = true) :
    failAgentTask db task.id error reason report = .error .noRows := by
  simp only [failAgentTask, updateOne]
  split
  · rfl
  · rename_i old found
    have matched := List.find?_some found
    simp only [Bool.and_eq_true, decide_eq_true_eq] at matched
    rw [List.inj_on_of_nodup_map unique (List.mem_of_find?_eq_some found) member matched.1] at matched
    cases status : task.status <;> simp [status, Status.active, Status.terminal] at matched terminal

theorem failTask_terminal (unique : (db.tasks.map Task.id).Nodup) (member : task ∈ db.tasks)
    (terminal : task.status.terminal = true) :
    failTask db task.id error reason report overlay = .ok (db, task) := by
  simp only [failTask, failTaskTransaction, failAgentTask_terminal unique member terminal,
    getAgentTask_eq unique member, bind, Except.bind]

theorem failTaskRetry_eligible (eligible : retryEligible reason task = true) (now : Nat) :
    failTaskRetry reason task now =
      some ⟨retryFireAt reason task now, some (retryAttemptCeiling reason task.maxAttempts)⟩ := by
  rw [failTaskRetry, if_pos (retryEligible_spec eligible).1, if_pos eligible]

theorem failTaskRetry_ineligible (ineligible : retryEligible reason task = false) (now : Nat) :
    failTaskRetry reason task now = none := by
  rw [failTaskRetry]
  split
  · rw [ineligible]
    rfl
  · rfl

theorem failTask_ineligible (wellFormed : WellFormed db) (member : task ∈ db.tasks)
    (active : task.status.active = true) (ineligible : retryEligible reason task = false) :
    failTask db task.id error reason report overlay =
      .ok ({ db with tasks := failedTable db task error reason report },
        task.fail db.now error reason report) := by
  simp only [failTask, failTaskTransaction, getAgentTask_eq wellFormed.unique member, Option.bind_some,
    failTaskRetry_ineligible ineligible, failAgentTask_active wellFormed member active, bind,
    Except.bind]

def failTaskChild (db : Db) (task : Task) (error : String) (reason : FailureReason)
    (report : SessionReport) (overlay : Overlay) : Task :=
  (task.fail db.now error reason report).retry (retryFireAt reason task db.now)
    (some (retryAttemptCeiling reason task.maxAttempts)) overlay db.now db.nextId

theorem unique_failedTable (unique : (db.tasks.map Task.id).Nodup) :
    ((failedTable db task error reason report).map Task.id).Nodup := by
  have kept : ∀ row, (Task.fail db.now error reason report row).id = row.id := fun _ => rfl
  rw [failedTable, TableLib.map_updateWhere kept]
  exact unique

theorem failTask_eligible (wellFormed : WellFormed db) (member : task ∈ db.tasks)
    (active : task.status.active = true) (eligible : retryEligible reason task = true) :
    failTask db task.id error reason report overlay =
      if PendingUnique (failedTable db task error reason report ++
          [failTaskChild db task error reason report overlay]) then
        .ok ({ db with
            tasks := failedTable db task error reason report ++
              [failTaskChild db task error reason report overlay]
            nextId := db.nextId + 1 },
          task.fail db.now error reason report)
      else .error .uniqueViolation := by
  have stored : task.fail db.now error reason report ∈ failedTable db task error reason report :=
    (mem_failedTable wellFormed.unique member active).mpr (Or.inr rfl)
  have parent : getAgentTask { db with tasks := failedTable db task error reason report } task.id =
      some (task.fail db.now error reason report) :=
    @getAgentTask_eq { db with tasks := failedTable db task error reason report }
      (unique_failedTable wellFormed.unique) _ stored
  simp only [failTask, failTaskTransaction, getAgentTask_eq wellFormed.unique member, Option.bind_some,
    failTaskRetry_eligible eligible, failAgentTask_active wellFormed member active, bind, Except.bind,
    createRetryTask, parent, insert, commit]
  by_cases room : PendingUnique (failedTable db task error reason report ++
      [failTaskChild db task error reason report overlay])
  · simp only [room, if_true]
    rw [failTaskChild] at room
    rw [if_pos room]
    rfl
  · simp only [room, if_false]
    rw [failTaskChild] at room
    rw [if_neg room]

theorem retry_pending {parent : Task} {maxAttempts : Option Int} {now : Nat} {id : Id} :
    (parent.retry (retryFireAt reason task now) maxAttempts overlay now id).status.pending = true ↔
      retryDelayForAttempt reason task.attempt = 0 := by
  by_cases delayed : 0 < retryDelayForAttempt reason task.attempt
  · have later : retryDelayForAttempt reason task.attempt ≠ 0 := by omega
    simp [Task.retry, retryFireAt, delayed, later, Status.pending]
  · have immediate : retryDelayForAttempt reason task.attempt = 0 := by omega
    simp [Task.retry, retryFireAt, immediate, Status.pending]

theorem failTaskChild_room (wellFormed : WellFormed db) (member : task ∈ db.tasks)
    (active : task.status.active = true) (eligible : retryEligible reason task = true) :
    PendingUnique (failedTable db task error reason report ++
        [failTaskChild db task error reason report overlay]) ↔
      retryBlocked db reason task = false := by
  rw [pendingUnique_append, ← Bool.not_eq_true]
  constructor
  · rintro ⟨-, apart⟩ blocked
    simp only [retryBlocked, Bool.and_eq_true, decide_eq_true_eq, List.any_eq_true] at blocked
    obtain ⟨⟨-, immediate⟩, other, listed, ⟨differentId, pending⟩, same⟩ := blocked
    have different := (id_ne_iff wellFormed.unique listed member).mp differentId
    have kept : other ∈ failedTable db task error reason report :=
      (mem_failedTable wellFormed.unique member active).mpr (Or.inl ⟨listed, different⟩)
    have collide : other.collides (failTaskChild db task error reason report overlay) = true :=
      collides_iff.mpr ⟨pending, retry_pending.mpr immediate, same⟩
    rw [apart other kept] at collide
    contradiction
  · intro unblocked
    refine ⟨pendingUnique_ends wellFormed.pending (fun _ => rfl) fun _ => rfl, fun other kept => ?_⟩
    rw [← Bool.not_eq_true]
    intro collide
    obtain ⟨pending, childPending, same⟩ := collides_iff.mp collide
    rcases (mem_failedTable wellFormed.unique member active).mp kept with ⟨listed, different⟩ | rfl
    · apply unblocked
      simp only [retryBlocked, Bool.and_eq_true, decide_eq_true_eq, List.any_eq_true]
      exact ⟨⟨eligible, retry_pending.mp childPending⟩, other, listed,
        ⟨(id_ne_iff wellFormed.unique listed member).mpr different, pending⟩, same⟩
    · contradiction

theorem Chains.childless (chains : Chains db) (member : task ∈ db.tasks)
    (active : task.status.active = true) :
    (failedTable db task error reason report).countP
      (fun row => row.retryOfTaskId = some task.id) = 0 := by
  have unretried : ∀ row ∈ db.tasks, row.retryOfTaskId ≠ some task.id := by
    intro row listed link
    have retried := chains.retried member listed link
    exact active_ne_failed active retried.failed
  refine List.countP_eq_zero.mpr fun row listed => ?_
  rw [decide_eq_true_eq]
  rcases (mem_failedTable chains.unique member active).mp listed with ⟨inTable, -⟩ | rfl
  · exact unretried row inTable
  · exact unretried task member

structure FailTakesEffect (db : Db) (task : Task) (error : String) (reason : FailureReason)
    (report : SessionReport) (overlay : Overlay) : Prop where
  active : task.status.active = true →
    ∃ next row, failTask db task.id error reason report overlay = .ok (next, row) ∧
      row ∈ next.tasks ∧ row.id = task.id ∧ row.status = .failed ∧
      next.tasks.countP (fun child => child.retryOfTaskId = some task.id) =
        if retryEligible reason task then 1 else 0
  terminal : task.status.terminal = true →
    failTask db task.id error reason report overlay = .ok (db, task)

theorem Chains.failTakesEffect (chains : Chains db) (member : task ∈ db.tasks)
    (unblocked : task.status.active = true → retryBlocked db reason task = false) :
    FailTakesEffect db task error reason report overlay := by
  refine ⟨fun active => ?_, failTask_terminal chains.unique member⟩
  have stored : task.fail db.now error reason report ∈ failedTable db task error reason report :=
    (mem_failedTable chains.unique member active).mpr (Or.inr rfl)
  have childless := @Chains.childless db task error reason report chains member active
  by_cases eligible : retryEligible reason task = true
  · have room := (@failTaskChild_room db task error reason report overlay chains.toWellFormed member
      active eligible).mpr (unblocked active)
    rw [failTask_eligible chains.toWellFormed member active eligible, if_pos room, if_pos eligible]
    refine ⟨_, _, rfl, List.mem_append_left _ stored, rfl, rfl, ?_⟩
    rw [List.countP_append, childless]
    simp [failTaskChild, Task.retry, Task.fail]
  · rw [Bool.not_eq_true] at eligible
    rw [failTask_ineligible chains.toWellFormed member active eligible, eligible]
    exact ⟨_, _, rfl, stored, rfl, rfl, childless⟩

theorem Chains.failTask_refused (chains : Chains db) (member : task ∈ db.tasks)
    (active : task.status.active = true) (blocked : retryBlocked db reason task = true) :
    failTask db task.id error reason report overlay = .error .uniqueViolation := by
  have eligible : retryEligible reason task = true := by
    simp only [retryBlocked, Bool.and_eq_true] at blocked
    exact blocked.1.1
  have noRoom : ¬ PendingUnique (failedTable db task error reason report ++
      [failTaskChild db task error reason report overlay]) := by
    rw [failTaskChild_room chains.toWellFormed member active eligible, blocked]
    simp
  rw [failTask_eligible chains.toWellFormed member active eligible, if_neg noRoom]

end Failing

def startedRun : List Action :=
  [.createAgentTask 9 plainTask, .beginClaimTask 1, .finishClaimTask 1 [], .startAgentTask 0]

def startedTask : Task := ((Task.forIssue 9 plainTask 0 0).claim 0).start 0

end MulticaOS.TaskQueue
