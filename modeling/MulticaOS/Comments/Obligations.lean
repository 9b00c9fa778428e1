import MulticaOS.Comments.Reconcile
import MulticaOS.TaskQueue.Failing

/-!
What becomes of a comment when the task that covers it ends: a completion replays it, a
failure hands on at most what was planned.
-/

namespace MulticaOS.Comments

open TaskQueue

def otherCovers (pair : Pair) (comments : List Comment) (db : Db) (task : Task) (comment : Id) : Bool :=
  db.tasks.any fun other => other.id ≠ task.id && covers pair comments comment other

section Ending

variable {pair : Pair} {comments : List Comment} {db next : Db} {task row : Task} {comment : Id}

theorem covers_owned (covering : covers pair comments comment row = true) : pair.owns row = true := by
  simp only [covers, Bool.and_eq_true] at covering
  exact covering.1.1

theorem delivered_owned (received : delivered pair comment row = true) : pair.owns row = true := by
  simp only [delivered, Bool.and_eq_true] at received
  exact received.1

theorem covered_iff : covered pair comments db comment = true ↔
    ∃ row ∈ db.tasks, delivered pair comment row = true ∨ covers pair comments comment row = true := by
  simp only [covered, List.any_eq_true, Bool.or_eq_true]

theorem covered_congr (same : ∀ row, pair.owns row = true → (row ∈ next.tasks ↔ row ∈ db.tasks)) :
    covered pair comments next comment = true ↔ covered pair comments db comment = true := by
  have owned : ∀ row, delivered pair comment row = true ∨ covers pair comments comment row = true →
      pair.owns row = true := fun row backed => backed.elim delivered_owned covers_owned
  rw [covered_iff, covered_iff]
  constructor
  · rintro ⟨row, member, backed⟩
    exact ⟨row, (same row (owned row backed)).mp member, backed⟩
  · rintro ⟨row, member, backed⟩
    exact ⟨row, (same row (owned row backed)).mpr member, backed⟩

theorem covered_ended {extra : Task → Prop} (unique : (db.tasks.map Task.id).Nodup)
    (member : task ∈ db.tasks)
    (undelivered : ∀ other ∈ db.tasks, delivered pair comment other = false)
    (rows : ∀ row, pair.owns row = true →
      (row ∈ next.tasks ↔ (row ∈ db.tasks ∧ row ≠ task) ∨ extra row)) :
    covered pair comments next comment = true ↔ otherCovers pair comments db task comment = true ∨
      ∃ row, extra row ∧ (delivered pair comment row = true ∨
        covers pair comments comment row = true) := by
  simp only [otherCovers, List.any_eq_true, Bool.and_eq_true, decide_eq_true_eq]
  rw [covered_iff]
  constructor
  · rintro ⟨row, listed, backed⟩
    rcases (rows row (backed.elim delivered_owned covers_owned)).mp listed with ⟨old, different⟩ | new
    · rcases backed with received | covering
      · rw [undelivered row old] at received
        contradiction
      · exact Or.inl ⟨row, old, (id_ne_iff unique old member).mpr different, covering⟩
    · exact Or.inr ⟨row, new, backed⟩
  · rintro (⟨row, old, different, covering⟩ | ⟨row, new, backed⟩)
    · have kept := (rows row (covers_owned covering)).mpr
        (Or.inl ⟨old, (id_ne_iff unique old member).mp different⟩)
      exact ⟨row, kept, Or.inr covering⟩
    · exact ⟨row, (rows row (backed.elim delivered_owned covers_owned)).mpr (Or.inr new), backed⟩

theorem uncovered_terminal (terminal : row.status.terminal = true) :
    covers pair comments comment row = false := by
  simp [covers, terminal]

theorem lost_ended {ended : Task} (terminal : ended.status.terminal = true)
    (sameReceipt : delivered pair comment ended = delivered pair comment task)
    (undelivered : delivered pair comment task = false) :
    ¬ (delivered pair comment ended = true ∨ covers pair comments comment ended = true) := by
  rw [uncovered_terminal terminal, sameReceipt, undelivered]
  simp

theorem covers_new (posted : ∀ other ∈ comments, other.createdAt ≤ db.now)
    (owned : pair.owns row = true)
    (live : row.status.terminal = false) (created : row.createdAt = db.now) :
    covers pair comments comment row = true ↔ comment ∈ row.planned := by
  have noYounger : (comments.any fun other => other.id = comment && row.createdAt <
      other.createdAt) = false := by
    rw [List.any_eq_false]
    intro other listed younger
    simp only [Bool.and_eq_true, decide_eq_true_eq] at younger
    have old := posted other listed
    omega
  simp [covers, owned, live, noYounger]

theorem retry_live {fireAt : Option Nat} {maxAttempts : Option Int} {overlay : Overlay}
    {now : Nat} {id : Id} :
    (row.retry fireAt maxAttempts overlay now id).status.terminal = false := by
  by_cases deferred : fireAt.isSome = true
  · simp [Task.retry, deferred, Status.terminal]
  · simp [Task.retry, deferred, Status.terminal]

theorem backed_retry {fireAt : Option Nat} {maxAttempts : Option Int} {overlay : Overlay} {id : Id}
    (posted : ∀ other ∈ comments, other.createdAt ≤ db.now) (owned : pair.owns row = true) :
    (delivered pair comment (row.retry fireAt maxAttempts overlay db.now id) = true ∨
      covers pair comments comment (row.retry fireAt maxAttempts overlay db.now id) = true) ↔
        comment ∈ row.planned := by
  have undelivered : delivered pair comment
      (row.retry fireAt maxAttempts overlay db.now id) = false := by
    simp [delivered, Task.retry]
  have owner : pair.owns (row.retry fireAt maxAttempts overlay db.now id) = true := owned
  rw [undelivered, covers_new posted owner retry_live rfl]
  simp [Task.planned, Task.retry]

theorem covered_failTask {error : String} {reason : FailureReason} {report : SessionReport}
    {overlay : Overlay} (chains : Chains db) (posted : ∀ other ∈ comments, other.createdAt ≤ db.now)
    (member : task ∈ db.tasks) (active : task.status.active = true)
    (covering : covers pair comments comment task = true)
    (undelivered : ∀ other ∈ db.tasks, delivered pair comment other = false) :
    covered pair comments (step db (.failTask task.id error reason report overlay)) comment = true ↔
      otherCovers pair comments db task comment = true ∨ retryBlocked db reason task = true ∨
        (retryEligible reason task = true ∧ comment ∈ task.planned) := by
  have owned := covers_owned covering
  have wellFormed := chains.toWellFormed
  have lost := @lost_ended pair comments task comment (task.fail db.now error reason report) rfl rfl
    (undelivered task member)
  by_cases blocked : retryBlocked db reason task = true
  · simp only [step, chains.failTask_refused member active blocked, settle, blocked, true_or, or_true,
      iff_true]
    exact covered_iff.mpr ⟨task, member, Or.inr covering⟩
  · rw [Bool.not_eq_true] at blocked
    by_cases eligible : retryEligible reason task = true
    · have room := (@failTaskChild_room db task error reason report overlay wellFormed member active
        eligible).mpr blocked
      have ended := @covered_ended pair comments db
        (step db (.failTask task.id error reason report overlay)) task comment
        (fun row => row = task.fail db.now error reason report ∨
          row = failTaskChild db task error reason report overlay) wellFormed.unique member undelivered
        fun row _ => by
          simp only [step, failTask_eligible wellFormed member active eligible, if_pos room, settle,
            List.mem_append, mem_failedTable wellFormed.unique member active, List.mem_singleton,
            or_assoc]
      rw [ended, blocked, eligible]
      have handed := @backed_retry pair comments db (task.fail db.now error reason report) comment
        (retryFireAt reason task db.now) (some (retryAttemptCeiling reason task.maxAttempts)) overlay
        db.nextId posted owned
      constructor
      · rintro (others | ⟨row, rfl | rfl, backed⟩)
        · exact Or.inl others
        · exact absurd backed lost
        · exact Or.inr (Or.inr ⟨rfl, handed.mp backed⟩)
      · rintro (others | contra | ⟨-, planned⟩)
        · exact Or.inl others
        · contradiction
        · exact Or.inr ⟨_, Or.inr rfl, handed.mpr planned⟩
    · rw [Bool.not_eq_true] at eligible
      have ended := @covered_ended pair comments db
        (step db (.failTask task.id error reason report overlay)) task comment
        (fun row => row = task.fail db.now error reason report) wellFormed.unique member undelivered
        fun row _ => by
          simp only [step, failTask_ineligible wellFormed member active eligible, settle,
            mem_failedTable wellFormed.unique member active]
      rw [ended, blocked, eligible]
      simp only [exists_eq_left, lost, or_false, Bool.false_eq_true, false_and, or_false]

theorem one_active (serialized : Serialized db) {left right : Task} (leftMember : left ∈ db.tasks)
    (rightMember : right ∈ db.tasks) (leftOwned : pair.owns left = true)
    (rightOwned : pair.owns right = true) (leftActive : left.status.active = true)
    (rightActive : right.status.active = true) : left = right := by
  by_contra different
  have ids := (id_ne_iff serialized.unique leftMember rightMember).mpr different
  rw [owns_iff] at leftOwned rightOwned
  have apart := serialized.apart left leftMember right rightMember ids
    (leftOwned.2.trans rightOwned.2.symm) leftActive rightActive
  simp [Task.serializedWith, leftOwned.1, rightOwned.1] at apart

def completedTable (db : Db) (task : Task) (report : SessionReport) : List Task :=
  TableLib.updateWhere (fun row => row.id = task.id && row.status = .running)
    (Task.complete db.now report) db.tasks

variable {report : SessionReport}

theorem completeAgentTask_running (wellFormed : WellFormed db) (member : task ∈ db.tasks)
    (running : task.status = .running) :
    completeAgentTask db task.id report =
      .ok ({ db with tasks := completedTable db task report }, task.complete db.now report) :=
  updateOne_ends wellFormed.pending member
    (@only_row db wellFormed.unique task member (fun row => row.status = .running) (by simp [running]))
    (fun _ => rfl) fun _ => rfl

theorem mem_completedTable (unique : (db.tasks.map Task.id).Nodup) (member : task ∈ db.tasks)
    (running : task.status = .running) :
    row ∈ completedTable db task report ↔
      (row ∈ db.tasks ∧ row ≠ task) ∨ row = task.complete db.now report :=
  TableLib.mem_updateWhere_one member
    (@only_row db unique task member (fun row => row.status = .running) (by simp [running]))

theorem quiet_completed (serialized : Serialized db) (member : task ∈ db.tasks)
    (owned : pair.owns task = true) (running : task.status = .running) :
    Quiet pair { db with tasks := completedTable db task report } := by
  have done : step db (.completeAgentTask task.id report) =
      { db with tasks := completedTable db task report } := by
    rw [step, completeAgentTask_running serialized.toWellFormed member running, settle]
  refine ⟨done ▸ serialized.toWellFormed.step _, fun row listed rowOwned => ?_⟩
  rcases (mem_completedTable serialized.unique member running).mp listed with ⟨old, different⟩ | rfl
  · rw [← Bool.not_eq_true]
    intro active
    exact different (one_active serialized old member rowOwned owned active (by rw [running]; rfl))
  · rfl

theorem otherHeadQueued_completed (unique : (db.tasks.map Task.id).Nodup) (member : task ∈ db.tasks)
    (running : task.status = .running) :
    otherHeadQueued pair { db with tasks := completedTable db task report } =
      otherHeadQueued pair db := by
  rw [Bool.eq_iff_iff]
  simp only [otherHeadQueued, List.any_eq_true, Bool.and_eq_true, decide_eq_true_eq]
  constructor
  · rintro ⟨row, listed, ⟨owned, queued⟩, head⟩
    rcases (mem_completedTable unique member running).mp listed with ⟨old, -⟩ | rfl
    · exact ⟨row, old, ⟨owned, queued⟩, head⟩
    · contradiction
  · rintro ⟨row, old, ⟨owned, queued⟩, head⟩
    have different : row ≠ task := by
      rintro rfl
      rw [queued] at running
      contradiction
    exact ⟨row, (mem_completedTable unique member running).mpr (Or.inl ⟨old, different⟩),
      ⟨owned, queued⟩, head⟩

theorem mergeable_of_noOtherHead (free : otherHeadQueued pair db = false) : Mergeable pair db := by
  intro row listed owned queued
  have same := List.any_eq_false.mp free row listed
  simpa [owned, queued] using same

theorem owed_completed {posted : Comment} (listed : posted ∈ comments)
    (covering : covers pair comments posted.id task = true)
    (undelivered : delivered pair posted.id task = false)
    (ids : (comments.map Comment.id).Nodup) :
    posted.id ∈ reconcilable comments (task.complete db.now report) := by
  have owned := covers_owned covering
  simp only [delivered, owned, Bool.true_and] at undelivered
  simp only [covers, Bool.and_eq_true, Bool.or_eq_true, List.any_eq_true, decide_eq_true_eq] at covering
  refine List.mem_map.mpr ⟨posted, List.mem_filter.mpr ⟨listed, ?_⟩, rfl⟩
  simp only [Bool.and_eq_true, Bool.or_eq_true, decide_eq_true_eq, Bool.not_eq_true']
  refine ⟨?_, undelivered⟩
  rcases covering.2 with planned | ⟨other, otherListed, same, younger⟩
  · exact Or.inr planned
  · rw [List.inj_on_of_nodup_map ids otherListed listed same] at younger
    exact Or.inl younger

def reconcileBound (comments : List Comment) : Nat := 28 * comments.length + 1

theorem weight_listing (completed : Task) :
    weight comments (db, [.listing completed]) ≤ reconcileBound comments := by
  have shorter : (reconcilable comments completed).length ≤ comments.length := by
    rw [reconcilable, List.length_map]
    exact List.length_filter_le _ _
  simp only [weight, reconcileBound, threadWeight, List.map_cons, List.map_nil,
    List.sum_cons, List.sum_nil]
  omega

theorem covered_completed (unique : (db.tasks.map Task.id).Nodup) (member : task ∈ db.tasks)
    (running : task.status = .running)
    (undelivered : ∀ other ∈ db.tasks, delivered pair comment other = false) :
    covered pair comments { db with tasks := completedTable db task report } comment = true ↔
      otherCovers pair comments db task comment = true := by
  have lost := @lost_ended pair comments task comment (task.complete db.now report) rfl rfl
    (undelivered task member)
  have ended := @covered_ended pair comments db { db with tasks := completedTable db task report } task
    comment (fun row => row = task.complete db.now report) unique member undelivered
    fun row _ => mem_completedTable unique member running
  rw [ended]
  simp only [exists_eq_left, lost, or_false]

theorem reconcile_open {completed : Task} {supplies : List Supply} (quiet : Quiet pair db)
    (free : otherHeadQueued pair db = false) (owed : comment ∈ reconcilable comments completed)
    (enough : reconcileBound comments ≤ supplies.length) :
    (RunLib.run (soloStep pair comments) (db, [.listing completed]) supplies).2 = [] ∧
      Holding pair (RunLib.run (soloStep pair comments)
        (db, [.listing completed]) supplies).1 comment := by
  have start : Promised pair comments comment (db, [.listing completed]) :=
    ⟨quiet, mergeable_of_noOtherHead free, by simp [Thread.open], Nat.le_refl 1,
      Or.inr ⟨_, List.mem_cons_self, owed⟩⟩
  have each : ∀ (state : Db × List Thread) (supply : Supply), Promised pair comments comment state →
      Promised pair comments comment (soloStep pair comments state supply) ∧
        weight comments (soloStep pair comments state supply) ≤ weight comments state - 1 :=
    fun state supply promised => ⟨promised.step supply, soloStep_weight comments state supply⟩
  obtain ⟨promised, exhausted⟩ :=
    RunLib.run_exhausts each start (Nat.le_trans (weight_listing completed) enough)
  have ended := tail_of_weight exhausted
  refine ⟨ended, promised.promise.resolve_right ?_⟩
  rintro ⟨thread, member, -⟩
  rw [ended] at member
  contradiction

theorem reconcile_blocked {completed : Task} {supplies : List Supply} (quiet : Quiet pair db)
    (held : otherHeadQueued pair db = true) (enough : reconcileBound comments ≤ supplies.length) :
    (RunLib.run (soloStep pair comments) (db, [.listing completed]) supplies).2 = [] ∧
      (RunLib.run (soloStep pair comments) (db, [.listing completed]) supplies).1 = db := by
  have each : ∀ (state : Db × List Thread) (supply : Supply),
      (state.1 = db ∧ ∀ thread ∈ state.2, thread.blocked) →
        ((soloStep pair comments state supply).1 = db ∧
          ∀ thread ∈ (soloStep pair comments state supply).2, thread.blocked) ∧
        weight comments (soloStep pair comments state supply) ≤ weight comments state - 1 := by
    rintro state supply ⟨rfl, standing⟩
    exact ⟨soloStep_blocked quiet held standing supply, soloStep_weight comments state supply⟩
  have start : ∀ thread ∈ [Thread.listing completed], thread.blocked := by simp [Thread.blocked]
  obtain ⟨⟨same, -⟩, exhausted⟩ := RunLib.run_exhausts each ⟨rfl, start⟩
    (Nat.le_trans (weight_listing completed) enough)
  exact ⟨tail_of_weight exhausted, same⟩

end Ending

inductive Sweep where
  | offlineRuntimes (offline : List Id)
  | orphanedTasks (runtime : Id)
  | staleTasks (dispatchTimeout runningTimeout : Nat) (alive : List Id)

def Sweep.action : Sweep → Action
  | .offlineRuntimes offline => .failTasksForOfflineRuntimes offline
  | .orphanedTasks runtime => .recoverOrphanedTasksForRuntime runtime
  | .staleTasks dispatchTimeout runningTimeout alive =>
      .failStaleTasks dispatchTimeout runningTimeout alive

def Sweep.reason : Sweep → FailureReason
  | .offlineRuntimes _ => .runtimeOffline
  | .orphanedTasks _ => .runtimeRecovery
  | .staleTasks _ _ _ => .timeout

def Sweep.failed (db : Db) (sweep : Sweep) : List Task :=
  (step db sweep.action).swept.drop db.swept.length

def sweepActions (db : Db) (sweep : Sweep) (overlays : List Overlay) : List Action :=
  sweep.action :: overlays.map (Action.handleFailedTask db.swept.length)

structure Swept (db : Db) (sweep : Sweep) (matching : Task → Bool) (change : Task → Task) : Prop where
  next : step db sweep.action =
    { db with
      tasks := TableLib.updateWhere matching change db.tasks
      swept := db.swept ++ (db.tasks.filter matching).map change }
  active : ∀ task, matching task = true → task.status.active = true
  change : ∃ error keepsLease keepsWait,
    change = Task.sweep db.now error sweep.reason keepsLease keepsWait

theorem sweep_swept {db : Db} (pending : PendingUnique db.tasks) (sweep : Sweep) :
    ∃ matching change, Swept db sweep matching change := by
  have swept : ∀ (matching : Task → Bool) (error : String) (keepsLease keepsWait : Bool),
      TaskQueue.sweep db (updateMany db matching
        (Task.sweep db.now error sweep.reason keepsLease keepsWait)) =
      { db with
        tasks := TableLib.updateWhere matching
          (Task.sweep db.now error sweep.reason keepsLease keepsWait) db.tasks
        swept := db.swept ++
          (db.tasks.filter matching).map
            (Task.sweep db.now error sweep.reason keepsLease keepsWait) } := by
    intro matching error keepsLease keepsWait
    have stored := @pendingUnique_ends db pending matching
      (Task.sweep db.now error sweep.reason keepsLease keepsWait) (fun _ => rfl) fun _ => rfl
    simp only [TaskQueue.sweep, updateMany, commit, if_pos stored]
  cases sweep with
  | offlineRuntimes offline =>
      refine ⟨_, _, swept _ _ _ _, fun task matched => ?_, _, _, _, rfl⟩
      simp only [Bool.and_eq_true] at matched
      exact matched.1
  | orphanedTasks runtime =>
      refine ⟨_, _, swept _ _ _ _, fun task matched => ?_, _, _, _, rfl⟩
      simp only [Bool.and_eq_true] at matched
      exact matched.2
  | staleTasks dispatchTimeout runningTimeout alive =>
      exact ⟨_, _, swept _ _ _ _, fun task matched => timedOut_active matched, _, _, _, rfl⟩

structure Handling (pair : Pair) (front : List Task) (ended : Task) (waiting : List Task) (db : Db) :
    Prop extends WellFormed db where
  swept : db.swept = front ++ waiting
  stored : ∀ row ∈ waiting, row ∈ db.tasks
  distinct : (waiting.map Task.id).Nodup
  alone : ∀ row ∈ waiting, pair.owns row = true → row = ended

section Handling

variable {pair : Pair} {comments : List Comment} {front waiting : List Task} {db current : Db}
  {task ended row : Task} {comment : Id} {overlay : Overlay} {reason : FailureReason}

theorem handled_tasks (handling : Handling pair front ended (row :: waiting) current) :
    (step current (.handleFailedTask front.length overlay)).tasks =
      match maybeRetryPlan row current.now with
      | none => current.tasks
      | some plan =>
          if PendingUnique (current.tasks ++
              [row.retry plan.fireAt plan.maxAttempts overlay current.now current.nextId]) then
            current.tasks ++ [row.retry plan.fireAt plan.maxAttempts overlay current.now current.nextId]
          else current.tasks := by
  have first : current.swept[front.length]? = some row := by simp [handling.swept]
  have found := getAgentTask_eq handling.unique (handling.stored row List.mem_cons_self)
  simp only [getAgentTask] at found
  simp only [step, handleFailedTask, first, maybeRetryFailedTask]
  cases maybeRetryPlan row current.now with
  | none => rfl
  | some plan =>
      simp only [createRetryTask, getAgentTask, found, TaskQueue.insert, commit]
      by_cases room : PendingUnique (current.tasks ++
          [row.retry plan.fireAt plan.maxAttempts overlay current.now current.nextId])
      · simp only [if_pos room, settle]
      · simp only [if_neg room, settle]

theorem handled_mem (handling : Handling pair front ended (row :: waiting) current) {other : Task}
    (otherwise : pair.owns row = false) (owned : pair.owns other = true) :
    other ∈ (step current (.handleFailedTask front.length overlay)).tasks ↔ other ∈ current.tasks := by
  rw [handled_tasks handling]
  split
  · exact Iff.rfl
  · rename_i plan _
    split
    · rw [List.mem_append, List.mem_singleton]
      refine ⟨fun listed => listed.resolve_right fun new => ?_, Or.inl⟩
      have same : pair.owns other = pair.owns row := by rw [new]; rfl
      rw [same, otherwise] at owned
      contradiction
    · exact Iff.rfl

theorem Handling.step (handling : Handling pair front ended (row :: waiting) current)
    (overlay : Overlay) :
    Handling pair front ended waiting
      (TaskQueue.step current (.handleFailedTask front.length overlay)) := by
  obtain ⟨swept, -⟩ := @handleFailedTask_rest current front.length overlay _ rfl
  refine ⟨handling.toWellFormed.step _, ?_, fun other later => ?_, ?_, ?_⟩
  · rw [TaskQueue.step, swept, handling.swept, List.eraseIdx_append_of_length_le (Nat.le_refl _)]
    simp
  · have before := handling.stored other (List.mem_cons_of_mem _ later)
    rw [handled_tasks handling]
    split
    · exact before
    · split
      · exact List.mem_append_left _ before
      · exact before
  · have distinct := handling.distinct
    rw [List.map_cons, List.nodup_cons] at distinct
    exact distinct.2
  · exact fun other later => handling.alone other (List.mem_cons_of_mem _ later)

structure InPlace (pair : Pair) (db : Db) (task : Task) (reason : FailureReason) (ended : Task)
    (current : Db) : Prop where
  now : current.now = db.now
  rows : ∀ row, pair.owns row = true →
    (row ∈ current.tasks ↔ (row ∈ db.tasks ∧ row ≠ task) ∨ row = ended)
  ended : ∃ error keepsLease keepsWait, ended = task.sweep db.now error reason keepsLease keepsWait

theorem InPlace.room {fireAt : Option Nat} {maxAttempts : Option Int} {id : Id}
    (inPlace : InPlace pair db task reason ended current) (wellFormed : WellFormed db)
    (pending : PendingUnique current.tasks) (member : task ∈ db.tasks) (owned : pair.owns task = true)
    (eligible : retryEligible reason task = true)
    (delay : fireAt = retryFireAt reason task current.now) :
    PendingUnique (current.tasks ++ [ended.retry fireAt maxAttempts overlay current.now id]) ↔
      retryBlocked db reason task = false := by
  obtain ⟨error, keepsLease, keepsWait, rfl⟩ := inPlace.ended
  subst delay
  rw [pendingUnique_append, ← Bool.not_eq_true]
  constructor
  · rintro ⟨-, apart⟩ blocked
    simp only [retryBlocked, Bool.and_eq_true, decide_eq_true_eq, List.any_eq_true] at blocked
    obtain ⟨⟨-, immediate⟩, other, listed, ⟨different, otherPending⟩, same⟩ := blocked
    have kept := (inPlace.rows other (owns_of_samePair same owned)).mpr
      (Or.inl ⟨listed, (id_ne_iff wellFormed.unique listed member).mp different⟩)
    have collide : other.collides ((task.sweep db.now error reason keepsLease keepsWait).retry
        (retryFireAt reason task current.now) maxAttempts overlay current.now id) = true :=
      collides_iff.mpr ⟨otherPending, retry_pending.mpr immediate, same⟩
    rw [apart other kept] at collide
    contradiction
  · intro unblocked
    refine ⟨pending, fun other kept => ?_⟩
    rw [← Bool.not_eq_true]
    intro collide
    obtain ⟨otherPending, childPending, same⟩ := collides_iff.mp collide
    have pairOf : other.samePair task = true := same
    rcases (inPlace.rows other (owns_of_samePair pairOf owned)).mp kept with ⟨listed, different⟩ | rfl
    · apply unblocked
      simp only [retryBlocked, Bool.and_eq_true, decide_eq_true_eq, List.any_eq_true]
      exact ⟨⟨eligible, retry_pending.mp childPending⟩, other, listed,
        ⟨(id_ne_iff wellFormed.unique listed member).mpr different, otherPending⟩, pairOf⟩
    · contradiction

theorem InPlace.handled (inPlace : InPlace pair db task reason ended current)
    (wellFormed : WellFormed db)
    (handling : Handling pair front ended (ended :: waiting) current)
    (posted : ∀ other ∈ comments, other.createdAt ≤ db.now) (member : task ∈ db.tasks)
    (owned : pair.owns task = true)
    (undelivered : ∀ other ∈ db.tasks, delivered pair comment other = false) :
    covered pair comments (step current (.handleFailedTask front.length overlay)) comment = true ↔
      otherCovers pair comments db task comment = true ∨
        (retryEligible reason task = true ∧ retryBlocked db reason task = false ∧
          comment ∈ task.planned) := by
  have tasks := @handled_tasks pair front waiting current ended ended overlay handling
  obtain ⟨error, keepsLease, keepsWait, ended_eq⟩ := inPlace.ended
  have plan_eq : maybeRetryPlan ended current.now = failTaskRetry reason task current.now := by
    rw [ended_eq]
    exact maybeRetryPlan_eq rfl rfl
  have lost : ¬ (delivered pair comment ended = true ∨ covers pair comments comment ended = true) := by
    rw [ended_eq]
    exact lost_ended rfl rfl (undelivered task member)
  -- without a retry only the failed row stands in the task's place
  have alone (same : (step current (.handleFailedTask front.length overlay)).tasks = current.tasks) :
      covered pair comments (step current (.handleFailedTask front.length overlay)) comment = true ↔
        otherCovers pair comments db task comment = true := by
    have result := @covered_ended pair comments db
      (step current (.handleFailedTask front.length overlay)) task comment (fun row => row = ended)
      wellFormed.unique member undelivered
      fun row rowOwned => by rw [same]; exact inPlace.rows row rowOwned
    rw [result]
    simp only [exists_eq_left, lost, or_false]
  by_cases eligible : retryEligible reason task = true
  · rw [plan_eq, failTaskRetry_eligible eligible] at tasks
    simp only at tasks
    have fits := @InPlace.room pair db current task ended overlay reason
      (retryFireAt reason task current.now) (some (retryAttemptCeiling reason task.maxAttempts))
      current.nextId inPlace wellFormed handling.pending member owned eligible rfl
    by_cases blocked : retryBlocked db reason task = false
    · rw [if_pos (fits.mpr blocked)] at tasks
      have result := @covered_ended pair comments db
        (step current (.handleFailedTask front.length overlay)) task comment
        (fun row => row = ended ∨ row = ended.retry (retryFireAt reason task current.now)
          (some (retryAttemptCeiling reason task.maxAttempts)) overlay current.now current.nextId)
        wellFormed.unique member undelivered fun row rowOwned => by
          rw [tasks, List.mem_append, List.mem_singleton, inPlace.rows row rowOwned, or_assoc]
      have endedOwned : pair.owns ended = true := by rw [ended_eq]; exact owned
      have planned : ended.planned = task.planned := by rw [ended_eq]; rfl
      have handed := @backed_retry pair comments current ended comment
        (retryFireAt reason task current.now) (some (retryAttemptCeiling reason task.maxAttempts))
        overlay current.nextId (inPlace.now ▸ posted) endedOwned
      rw [planned] at handed
      rw [result, eligible, blocked]
      constructor
      · rintro (others | ⟨other, rfl | rfl, backed⟩)
        · exact Or.inl others
        · exact absurd backed lost
        · exact Or.inr ⟨rfl, rfl, handed.mp backed⟩
      · rintro (others | ⟨-, -, inPlan⟩)
        · exact Or.inl others
        · exact Or.inr ⟨_, Or.inr rfl, handed.mpr inPlan⟩
    · rw [if_neg (mt fits.mp blocked)] at tasks
      rw [alone tasks]
      exact ⟨Or.inl, fun backed => backed.resolve_right fun retried => blocked retried.2.1⟩
  · rw [Bool.not_eq_true] at eligible
    rw [plan_eq, failTaskRetry_ineligible eligible] at tasks
    rw [alone tasks, eligible]
    simp only [Bool.false_eq_true, false_and, or_false]

theorem InPlace.run (wellFormed : WellFormed db) (posted : ∀ other ∈ comments, other.createdAt ≤ db.now)
    (member : task ∈ db.tasks) (owned : pair.owns task = true)
    (undelivered : ∀ other ∈ db.tasks, delivered pair comment other = false) (overlays : List Overlay)
    (handling : Handling pair front ended waiting current) (enough : waiting.length ≤ overlays.length)
    (phase : (ended ∈ waiting ∧ InPlace pair db task reason ended current) ∨
      (ended ∉ waiting ∧ (covered pair comments current comment = true ↔
        otherCovers pair comments db task comment = true ∨
          (retryEligible reason task = true ∧ retryBlocked db reason task = false ∧
            comment ∈ task.planned)))) :
    (RunLib.run step current (overlays.map (Action.handleFailedTask front.length))).swept = front ∧
    (covered pair comments
        (RunLib.run step current (overlays.map (Action.handleFailedTask front.length))) comment = true ↔
      otherCovers pair comments db task comment = true ∨
        (retryEligible reason task = true ∧ retryBlocked db reason task = false ∧
          comment ∈ task.planned)) := by
  induction overlays generalizing waiting current with
  | nil =>
      have none : waiting = [] := List.length_eq_zero_iff.mp (Nat.le_zero.mp enough)
      subst none
      rcases phase with ⟨absurdly, -⟩ | ⟨-, result⟩
      · contradiction
      · exact ⟨by simpa using handling.swept, result⟩
  | cons overlay rest ih =>
      rw [List.map_cons, RunLib.run_cons]
      cases waiting with
      | nil =>
          have still : step current (.handleFailedTask front.length overlay) = current := by
            have none : current.swept[front.length]? = none := by simp [handling.swept]
            simp only [step, handleFailedTask, none]
          rw [still]
          exact ih handling (Nat.zero_le _) phase
      | cons row later =>
          have fewer : later.length ≤ rest.length := by
            simp only [List.length_cons] at enough
            omega
          refine ih (handling.step overlay) fewer ?_
          have distinct := handling.distinct
          rw [List.map_cons, List.nodup_cons] at distinct
          by_cases isEnded : row = ended
          · subst isEnded
            have gone : row ∉ later := fun listed => distinct.1 (List.mem_map_of_mem listed)
            rcases phase with ⟨-, inPlace⟩ | ⟨handledBefore, -⟩
            · exact Or.inr ⟨gone, inPlace.handled wellFormed handling posted member owned undelivered⟩
            · exact absurd List.mem_cons_self handledBefore
          · have otherwise : pair.owns row = false := by
              rw [← Bool.not_eq_true]
              exact fun rowOwned => isEnded (handling.alone row List.mem_cons_self rowOwned)
            rcases phase with ⟨listed, inPlace⟩ | ⟨handledBefore, result⟩
            · refine Or.inl ⟨(List.mem_cons.mp listed).resolve_left (Ne.symm isEnded), ?_, ?_,
                inPlace.ended⟩
              · obtain ⟨-, rest_eq⟩ := @handleFailedTask_rest current front.length overlay _ rfl
                rw [step, rest_eq]
                exact inPlace.now
              · intro other otherOwned
                rw [handled_mem handling otherwise otherOwned]
                exact inPlace.rows other otherOwned
            · refine Or.inr ⟨fun listed => handledBefore (List.mem_cons_of_mem _ listed), ?_⟩
              rw [covered_congr fun other otherOwned => handled_mem handling otherwise otherOwned]
              exact result

theorem Swept.failed {sweep : Sweep} {matching : Task → Bool} {change : Task → Task}
    (swept : Swept db sweep matching change) :
    sweep.failed db = (db.tasks.filter matching).map change := by
  rw [Sweep.failed, swept.next]
  simp

theorem Swept.handling {sweep : Sweep} {matching : Task → Bool} {change : Task → Task}
    (swept : Swept db sweep matching change) (serialized : Serialized db) (member : task ∈ db.tasks)
    (owned : pair.owns task = true) (matched : matching task = true) :
    Handling pair db.swept (change task) ((db.tasks.filter matching).map change)
      (step db sweep.action) := by
  obtain ⟨error, keepsLease, keepsWait, change_eq⟩ := swept.change
  refine ⟨serialized.toWellFormed.step _, by rw [swept.next], fun row waits => ?_, ?_, ?_⟩
  · obtain ⟨old, listed, rfl⟩ := List.mem_map.mp waits
    obtain ⟨inTable, oldMatched⟩ := List.mem_filter.mp listed
    rw [swept.next]
    exact List.mem_map.mpr ⟨old, inTable, if_pos oldMatched⟩
  · have ids : ((db.tasks.filter matching).map change).map Task.id =
        (db.tasks.filter matching).map Task.id := by
      rw [List.map_map, change_eq]
      rfl
    rw [ids]
    exact serialized.unique.sublist (List.filter_sublist.map Task.id)
  · intro row waits rowOwned
    obtain ⟨old, listed, rfl⟩ := List.mem_map.mp waits
    obtain ⟨inTable, oldMatched⟩ := List.mem_filter.mp listed
    have oldOwned : pair.owns old = true := by
      rw [change_eq] at rowOwned
      exact rowOwned
    rw [one_active serialized inTable member oldOwned owned (swept.active old oldMatched)
      (swept.active task matched)]

theorem Swept.inPlace {sweep : Sweep} {matching : Task → Bool} {change : Task → Task}
    (swept : Swept db sweep matching change) (serialized : Serialized db) (member : task ∈ db.tasks)
    (owned : pair.owns task = true) (matched : matching task = true) :
    InPlace pair db task sweep.reason (change task) (step db sweep.action) := by
  obtain ⟨error, keepsLease, keepsWait, change_eq⟩ := swept.change
  refine ⟨by rw [swept.next], fun row rowOwned => ?_, error, keepsLease, keepsWait, by rw [change_eq]⟩
  rw [swept.next]
  constructor
  · intro listed
    rcases TableLib.mem_updateWhere listed with ⟨inTable, unmatched⟩ | ⟨old, inTable, oldMatched, rfl⟩
    · refine Or.inl ⟨inTable, ?_⟩
      rintro rfl
      rw [matched] at unmatched
      contradiction
    · have oldOwned : pair.owns old = true := by
        rw [change_eq] at rowOwned
        exact rowOwned
      rw [one_active serialized inTable member oldOwned owned (swept.active old oldMatched)
        (swept.active task matched)]
      exact Or.inr rfl
  · rintro (⟨inTable, different⟩ | rfl)
    · refine List.mem_map.mpr ⟨row, inTable, if_neg fun rowMatched => different ?_⟩
      exact one_active serialized inTable member rowOwned owned (swept.active row rowMatched)
        (swept.active task matched)
    · exact List.mem_map.mpr ⟨task, member, if_pos matched⟩

theorem covered_sweep {sweep : Sweep} {overlays : List Overlay} (serialized : Serialized db)
    (posted : ∀ other ∈ comments, other.createdAt ≤ db.now) (member : task ∈ db.tasks)
    (covering : covers pair comments comment task = true)
    (undelivered : ∀ other ∈ db.tasks, delivered pair comment other = false)
    (fails : ∃ row ∈ sweep.failed db, row.id = task.id)
    (enough : (sweep.failed db).length ≤ overlays.length) :
    (RunLib.run step db (sweepActions db sweep overlays)).swept = db.swept ∧
    (covered pair comments (RunLib.run step db (sweepActions db sweep overlays)) comment = true ↔
      otherCovers pair comments db task comment = true ∨
        (retryEligible sweep.reason task = true ∧ retryBlocked db sweep.reason task = false ∧
          comment ∈ task.planned)) := by
  obtain ⟨matching, change, swept⟩ := sweep_swept serialized.pending sweep
  obtain ⟨error, keepsLease, keepsWait, change_eq⟩ := swept.change
  have owned := covers_owned covering
  rw [swept.failed] at fails enough
  obtain ⟨row, waits, same⟩ := fails
  obtain ⟨old, listed, rfl⟩ := List.mem_map.mp waits
  obtain ⟨inTable, matched⟩ := List.mem_filter.mp listed
  have isTask : old = task := by
    refine List.inj_on_of_nodup_map serialized.unique inTable member ?_
    rw [← same, change_eq]
    rfl
  subst isTask
  rw [sweepActions, RunLib.run_cons]
  exact InPlace.run serialized.toWellFormed posted member owned undelivered overlays
    (swept.handling serialized member owned matched) enough
    (Or.inl ⟨waits, swept.inPlace serialized member owned matched⟩)

end Handling

structure Sound (limits : Id → Nat) (system : System) : Prop where
  reached : Reached limits system.db
  posted : ∀ comment ∈ system.comments, comment.createdAt ≤ system.db.now
  ids : system.comments.map Comment.id = List.range system.comments.length

theorem start_sound (limits : Id → Nat) : Sound limits (startSystem limits) :=
  ⟨⟨[], rfl⟩, by simp [startSystem], rfl⟩

theorem Simulated.now {db next : Db} (simulated : Simulated db next) : db.now ≤ next.now := by
  rcases simulated with rfl | ⟨action, rfl⟩
  · exact Nat.le_refl _
  · exact step_now db action

theorem Sound.step {pair : Pair} {limits : Id → Nat} {system : System} (sound : Sound limits system)
    (event : Event) : Sound limits (systemStep pair system event) := by
  have simulated := @systemStep_simulated pair system event
  have later : ∀ comment ∈ system.comments, comment.createdAt ≤ (systemStep pair system event).db.now :=
    fun comment listed => Nat.le_trans (sound.posted comment listed) simulated.now
  cases event with
  | table action => exact ⟨sound.reached.simulated simulated, later, sound.ids⟩
  | post =>
      refine ⟨sound.reached, fun comment listed => ?_, ?_⟩
      · rcases List.mem_append.mp listed with old | new
        · exact later comment old
        · rw [List.mem_singleton.mp new]
          exact Nat.le_refl _
      · simp [systemStep, sound.ids, List.range_succ]
  | advance index computed resolution =>
      have same : (systemStep pair system (.advance index computed resolution)).comments =
          system.comments := by
        simp only [systemStep]
        split <;> rfl
      refine ⟨sound.reached.simulated simulated, ?_, ?_⟩
      · rw [same]
        exact later
      · rw [same]
        exact sound.ids

def completionEvents (system : System) (task : Task) (report : SessionReport) (supplies : List Supply) :
    List Event :=
  .table (.completeAgentTask task.id report) :: advances system.threads.length supplies

theorem covered_completion {pair : Pair} {limits : Id → Nat} {system : System} {task : Task}
    {posted : Comment} {report : SessionReport} {supplies : List Supply} (sound : Sound limits system)
    (member : task ∈ system.db.tasks) (running : task.status = .running)
    (listed : posted ∈ system.comments)
    (covering : covers pair system.comments posted.id task = true)
    (undelivered : ∀ other ∈ system.db.tasks, delivered pair posted.id other = false)
    (enough : reconcileBound system.comments ≤ supplies.length) :
    (RunLib.run (systemStep pair) system (completionEvents system task report supplies)).threads =
      system.threads ∧
    (covered pair system.comments
        (RunLib.run (systemStep pair) system (completionEvents system task report supplies)).db
        posted.id = true ↔
      otherCovers pair system.comments system.db task posted.id = true ∨
        otherHeadQueued pair system.db = false) := by
  obtain ⟨actions, reached⟩ := sound.reached
  have serialized : Serialized system.db := reached ▸ reachable_serialized limits actions
  have owned := covers_owned covering
  have completing := @completeAgentTask_running system.db task report serialized.toWellFormed
    member running
  have quiet := @quiet_completed pair system.db task report serialized member owned running
  have heads := @otherHeadQueued_completed pair system.db task report serialized.unique member running
  have completedOwned : pair.owns (task.complete system.db.now report) = true := owned
  have after : systemStep pair system (.table (.completeAgentTask task.id report)) =
      { system with
        db := { system.db with tasks := completedTable system.db task report }
        threads := system.threads ++ [.listing (task.complete system.db.now report)] } := by
    simp only [systemStep, step, reconciling, completing, settle, completedOwned, if_true]
  obtain ⟨-, db_eq, threads_eq⟩ := @run_advances pair system.threads
    [.listing (task.complete system.db.now report)] supplies (Nat.le_refl 1)
    (systemStep pair system (.table (.completeAgentTask task.id report))) (by rw [after])
  rw [completionEvents, RunLib.run_cons, db_eq, threads_eq, after]
  by_cases held : otherHeadQueued pair system.db = true
  · obtain ⟨ended, same⟩ := @reconcile_blocked pair system.comments _
      (task.complete system.db.now report) supplies quiet (heads.trans held) enough
    simp only [ended, List.append_nil, same, held, reduceCtorEq, or_false, true_and]
    exact covered_completed serialized.unique member running undelivered
  · rw [Bool.not_eq_true] at held
    have ids : (system.comments.map Comment.id).Nodup := sound.ids ▸ List.nodup_range
    obtain ⟨ended, task, inTable, isOwned, queued, planned⟩ := @reconcile_open pair system.comments _
      posted.id (task.complete system.db.now report) supplies quiet (heads.trans held)
      (owed_completed listed covering (undelivered task member) ids) enough
    simp only [ended, List.append_nil, held, or_true, iff_true, true_and]
    exact covered_of_planned inTable isOwned (by rw [queued]; rfl) planned

theorem system_sound (pair : Pair) (limits : Id → Nat) (events : List Event) :
    Sound limits (RunLib.run (systemStep pair) (startSystem limits) events) :=
  RunLib.run_invariant (start_sound limits) (fun _ event sound => sound.step event) events

def ReachedSystem (pair : Pair) (limits : Id → Nat) (system : System) : Prop :=
  ∃ events, system = RunLib.run (systemStep pair) (startSystem limits) events

/-- When an undelivered comment stays covered as the task that covers it ends: always if another
task covers it too; else after a completion, unless a task of the pair is queued for another head;
after a `FailTask`, if its retry was refused and it is rolled back, or if it is retried and the
comment was planned; and after a sweep, if the task is retried and the comment was planned. -/
theorem obligation_survives_iff {pair : Pair} {limits : Id → Nat} {system : System} {task : Task}
    {posted : Comment} (reached : ReachedSystem pair limits system)
    (member : task ∈ system.db.tasks) (listed : posted ∈ system.comments)
    (covering : covers pair system.comments posted.id task = true)
    (undelivered : ∀ other ∈ system.db.tasks, delivered pair posted.id other = false) :
    (task.status = .running → ∀ report supplies,
      reconcileBound system.comments ≤ supplies.length →
        (RunLib.run (systemStep pair) system (completionEvents system task report supplies)).threads =
          system.threads ∧
        (covered pair system.comments
            (RunLib.run (systemStep pair) system (completionEvents system task report supplies)).db
            posted.id = true ↔
          otherCovers pair system.comments system.db task posted.id = true ∨
            otherHeadQueued pair system.db = false)) ∧
    (task.status.active = true → ∀ error reason report overlay,
      (covered pair system.comments (step system.db (.failTask task.id error reason report overlay))
          posted.id = true ↔
        otherCovers pair system.comments system.db task posted.id = true ∨
          retryBlocked system.db reason task = true ∨
            (retryEligible reason task = true ∧ posted.id ∈ task.planned))) ∧
    (∀ sweep overlays, (∃ row ∈ Sweep.failed system.db sweep, row.id = task.id) →
      (Sweep.failed system.db sweep).length ≤ overlays.length →
        (RunLib.run step system.db (sweepActions system.db sweep overlays)).swept = system.db.swept ∧
        (covered pair system.comments
            (RunLib.run step system.db (sweepActions system.db sweep overlays)) posted.id = true ↔
          otherCovers pair system.comments system.db task posted.id = true ∨
            (retryEligible sweep.reason task = true ∧
              retryBlocked system.db sweep.reason task = false ∧ posted.id ∈ task.planned))) := by
  obtain ⟨events, rfl⟩ := reached
  have sound := system_sound pair limits events
  obtain ⟨actions, db_eq⟩ := sound.reached
  refine ⟨fun running report supplies enough => ?_, fun active error reason report overlay => ?_,
    fun sweep overlays fails enough => ?_⟩
  · exact covered_completion sound member running listed covering undelivered enough
  · exact covered_failTask (db_eq ▸ reachable_chains limits actions) sound.posted member active covering
      undelivered
  · exact covered_sweep (db_eq ▸ reachable_serialized limits actions) sound.posted member covering
      undelivered fails enough

def startedSystem : System :=
  RunLib.run (systemStep somePair) (startSystem fun _ => 1)
    (orderlyEvents ++ [.table (.startAgentTask 0)])

def runningTask : Task :=
  ((Task.forIssue 9 (commentTask somePair mentioned 0 ⟨2, 0, none, noAttribution, noOverlay⟩) 0 0).claim
    0).start 1

def plainSupplies : List Supply :=
  List.replicate 57 (mentioned, ⟨2, 0, none, noAttribution, noOverlay⟩)

theorem obligation_survives_startedSystem :
    covered somePair startedSystem.comments
      (RunLib.run (systemStep somePair) startedSystem
        (completionEvents startedSystem runningTask noReport plainSupplies)).db 1 = true :=
  have survives := @obligation_survives_iff somePair (fun _ => 1) startedSystem runningTask ⟨1, 1⟩
    ⟨orderlyEvents ++ [.table (.startAgentTask 0)], rfl⟩ (List.Mem.head _)
    (List.Mem.tail _ (List.Mem.head _)) (by decide) (by decide)
  (survives.1 rfl noReport plainSupplies (by decide)).2.mpr (Or.inr (by decide))

/-- The task fails for a reason that is not retried, and the deferred comment is forgotten. -/
theorem obligation_lost_startedSystem :
    runningTask ∈ startedSystem.db.tasks ∧ (1, .deferred) ∈ startedSystem.reported ∧
      covers somePair startedSystem.comments 1 runningTask = true ∧
      (∀ other ∈ startedSystem.db.tasks, delivered somePair 1 other = false) ∧
      covered somePair startedSystem.comments
        (step startedSystem.db
          (.failTask 0 "agent error" (.other "agent_error") noReport noOverlay)) 1 =
          false := by
  refine ⟨List.Mem.head _, by decide, by decide, by decide, by decide⟩

end MulticaOS.Comments
