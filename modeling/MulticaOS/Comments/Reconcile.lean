import MulticaOS.Comments.Coverage
import MulticaOS.TaskQueue.Claiming
import MulticaOS.TaskQueue.Generations

/-!
A reconciliation that nothing interrupts: it ends, and it plans every comment it lists on
the queued task of the pair, unless that task is queued for another head.
-/

namespace MulticaOS.Comments

open TaskQueue

abbrev Supply := CommentTrigger × Resolved

def soloStep (pair : Pair) (comments : List Comment) (state : Db × List Thread) (supply : Supply) :
    Db × List Thread :=
  match state.2 with
  | [] => state
  | thread :: rest =>
      let (next, threads, _) := threadStep pair comments state.1 supply.1 (.resolved supply.2) thread
      (next, threads ++ rest)

def advances (index : Nat) (supplies : List Supply) : List Event :=
  supplies.map fun supply => .advance index supply.1 (.resolved supply.2)

theorem nextReplay_length (todo : List Id) : (nextReplay todo).length ≤ 1 := by
  cases todo with
  | nil => exact Nat.zero_le 1
  | cons comment rest => exact Nat.le_refl 1

theorem threadStep_length (pair : Pair) (comments : List Comment) (db : Db) (computed : CommentTrigger)
    (resolution : Resolution) (thread : Thread) :
    (threadStep pair comments db computed resolution thread).2.1.length ≤ 1 := by
  cases thread with
  | listing completed => exact nextReplay_length _
  | calling comment stored pc replay todo =>
      simp only [threadStep]
      split
      · exact Nat.le_refl 1
      · split
        · split
          · exact nextReplay_length todo
          · exact Nat.le_refl 1
        · exact Nat.zero_le 1
      · exact nextReplay_length todo

theorem run_advances {pair : Pair} {front tail : List Thread} (supplies : List Supply)
    (single : tail.length ≤ 1) {system : System} (threads : system.threads = front ++ tail) :
    (RunLib.run (systemStep pair) system (advances front.length supplies)).comments = system.comments ∧
    (RunLib.run (systemStep pair) system (advances front.length supplies)).db =
      (RunLib.run (soloStep pair system.comments) (system.db, tail) supplies).1 ∧
    (RunLib.run (systemStep pair) system (advances front.length supplies)).threads =
      front ++ (RunLib.run (soloStep pair system.comments) (system.db, tail) supplies).2 := by
  induction supplies generalizing system tail with
  | nil => exact ⟨rfl, rfl, threads⟩
  | cons supply rest ih =>
      cases tail with
      | nil =>
          have still : systemStep pair system (.advance front.length supply.1 (.resolved supply.2)) =
              system := by
            simp [systemStep, threads]
          have idle : soloStep pair system.comments (system.db, []) supply = (system.db, []) := rfl
          simp only [advances, List.map_cons, RunLib.run_cons, still, idle]
          exact ih single threads
      | cons thread others =>
          have last : others = [] := by
            rw [List.length_cons] at single
            exact List.length_eq_zero_iff.mp (by omega)
          subst last
          have found : system.threads[front.length]? = some thread := by simp [threads]
          simp only [advances, List.map_cons, RunLib.run_cons]
          have length := threadStep_length pair system.comments system.db supply.1 (.resolved supply.2)
            thread
          have moved := @ih (threadStep pair system.comments system.db supply.1 (.resolved supply.2)
            thread).2.1 length (systemStep pair system (.advance front.length supply.1
              (.resolved supply.2))) (by simp [systemStep, threads])
          simpa [systemStep, found, soloStep, advances] using moved

def Pc.budget : Pc → Nat
  | .flag => 28
  | .merge attempt _ => 12 + 3 * (maxAttempts - attempt) + 3
  | .active attempt => 12 + 3 * (maxAttempts - attempt) + 2
  | .register attempt => 12 + 3 * (maxAttempts - attempt) + 2
  | .enqueue attempt => 12 + 3 * (maxAttempts - attempt) + 1
  | .handOffRegister attempt => 3 * (maxHandOffs - attempt) + 3
  | .handOffMerge attempt => 3 * (maxHandOffs - attempt) + 2
  | .handOffEnqueue attempt => 3 * (maxHandOffs - attempt) + 1

def threadWeight (comments : List Comment) : Thread → Nat
  | .listing completed => 28 * (reconcilable comments completed).length + 1
  | .calling _ _ pc _ todo => pc.budget + 28 * todo.length

def weight (comments : List Comment) (state : Db × List Thread) : Nat :=
  (state.2.map (threadWeight comments)).sum

theorem weight_nextReplay (comments : List Comment) (todo : List Id) :
    ((nextReplay todo).map (threadWeight comments)).sum = 28 * todo.length := by
  cases todo with
  | nil => rfl
  | cons comment rest =>
      simp only [nextReplay, List.map_cons, List.map_nil, List.sum_cons, List.sum_nil, threadWeight,
        Pc.budget, List.length_cons]
      omega

section Budget

variable {pair : Pair} {db next : Db} {trigger : CommentTrigger} {comment : Id}
  {resolution : Resolution} {pc : Pc}

def Progress.within (budget : Nat) : Progress → Prop
  | .goto later => later.budget < budget
  | .returned _ => 12 < budget
  | .handedOff _ => 0 < budget

theorem callStep_within :
    (callStep pair db trigger comment resolution pc).2.within pc.budget := by
  cases pc with
  | flag =>
      simp only [callStep]
      split <;> simp only [Progress.within, Pc.budget, maxAttempts] <;> omega
  | merge attempt lostRace =>
      simp only [callStep]
      split
      case h_4 => split <;> simp only [Progress.within, Pc.budget] <;> omega
      all_goals simp only [Progress.within, Pc.budget]; omega
  | active attempt =>
      simp only [callStep]
      split <;> simp only [Progress.within, Pc.budget] <;> omega
  | register attempt =>
      simp only [callStep]
      split <;> simp only [Progress.within, Pc.budget] <;> omega
  | enqueue attempt =>
      simp only [callStep]
      split
      case h_2 => split <;> simp only [Progress.within, Pc.budget] <;> omega
      all_goals simp only [Progress.within, Pc.budget]; omega
  | handOffRegister attempt =>
      simp only [callStep]
      split <;> simp only [Progress.within, Pc.budget] <;> omega
  | handOffMerge attempt =>
      simp only [callStep]
      split <;> simp only [Progress.within, Pc.budget] <;> omega
  | handOffEnqueue attempt =>
      simp only [callStep]
      split
      case h_2 => split <;> simp only [Progress.within, Pc.budget] <;> omega
      all_goals simp only [Progress.within, Pc.budget]; omega

theorem threadStep_weight (comments : List Comment) (thread : Thread) (computed : CommentTrigger) :
    ((threadStep pair comments db computed resolution thread).2.1.map (threadWeight comments)).sum <
      threadWeight comments thread := by
  cases thread with
  | listing completed =>
      simp only [threadStep, weight_nextReplay, threadWeight]
      omega
  | calling comment stored pc replay todo =>
      have within := @callStep_within pair db (pc.routed computed stored) comment resolution pc
      simp only [threadStep, threadWeight]
      split <;> rename_i stepped <;> rw [stepped] at within <;> simp only [Progress.within] at within
      · simpa [threadWeight] using within
      · split
        · split
          · rw [weight_nextReplay]
            omega
          · have handOff : (Pc.handOffRegister 0).budget = 12 := rfl
            simp only [List.map_cons, List.map_nil, List.sum_cons, List.sum_nil, threadWeight]
            omega
        · simp only [List.map_nil, List.sum_nil]
          omega
      · rw [weight_nextReplay]
        omega

theorem soloStep_cons (comments : List Comment) (thread : Thread) (rest : List Thread)
    (supply : Supply) :
    soloStep pair comments (db, thread :: rest) supply =
      ((threadStep pair comments db supply.1 (.resolved supply.2) thread).1,
        (threadStep pair comments db supply.1 (.resolved supply.2) thread).2.1 ++ rest) := rfl

theorem soloStep_weight (comments : List Comment) (state : Db × List Thread) (supply : Supply) :
    weight comments (soloStep pair comments state supply) ≤ weight comments state - 1 := by
  obtain ⟨db, tail⟩ := state
  cases tail with
  | nil => exact Nat.zero_le _
  | cons thread rest =>
      have lower := @threadStep_weight pair db (.resolved supply.2) comments thread supply.1
      rw [soloStep_cons]
      simp only [weight, List.map_append, List.sum_append, List.map_cons, List.sum_cons]
      omega

theorem tail_of_weight {comments : List Comment} {state : Db × List Thread}
    (exhausted : weight comments state = 0) : state.2 = [] := by
  obtain ⟨db, tail⟩ := state
  cases tail with
  | nil => rfl
  | cons thread rest =>
      have lower := @threadStep_weight ⟨0, 0, none⟩ db .failed comments thread ⟨.issueAssignee, none⟩
      simp only [weight, List.map_cons, List.sum_cons] at exhausted
      omega

end Budget

structure Quiet (pair : Pair) (db : Db) : Prop extends WellFormed db where
  idle : ∀ task ∈ db.tasks, pair.owns task = true → task.status.active = false

def Occupied (pair : Pair) (db : Db) : Prop :=
  ∃ task ∈ db.tasks, pair.owns task = true ∧ task.status = .queued

def Holding (pair : Pair) (db : Db) (comment : Id) : Prop :=
  ∃ task ∈ db.tasks, pair.owns task = true ∧ task.status = .queued ∧ comment ∈ task.planned

def Mergeable (pair : Pair) (db : Db) : Prop :=
  ∀ task ∈ db.tasks, pair.owns task = true → task.status = .queued → sameHead pair.headSha task = true

theorem Holding.occupied {pair : Pair} {db : Db} {comment : Id} (holding : Holding pair db comment) :
    Occupied pair db := by
  obtain ⟨task, member, owned, queued, -⟩ := holding
  exact ⟨task, member, owned, queued⟩

section Statements

variable {pair : Pair} {db next : Db} {comment : Id}

theorem samePair_of_owns {left right : Task} (leftOwned : pair.owns left = true)
    (rightOwned : pair.owns right = true) : left.samePair right = true := by
  rw [owns_iff] at leftOwned rightOwned
  exact samePair_iff.mpr ⟨⟨pair.issue, leftOwned.1, rightOwned.1⟩, leftOwned.2.trans rightOwned.2.symm⟩

theorem owns_of_samePair {left right : Task} (same : left.samePair right = true)
    (owned : pair.owns right = true) : pair.owns left = true := by
  obtain ⟨⟨issue, leftIssue, rightIssue⟩, agent⟩ := samePair_iff.mp same
  rw [owns_iff] at owned ⊢
  exact ⟨leftIssue.trans (rightIssue.symm.trans owned.1), agent.trans owned.2⟩

theorem Quiet.queued_of_pending (quiet : Quiet pair db) {task : Task} (member : task ∈ db.tasks)
    (owned : pair.owns task = true) (pending : task.status.pending = true) : task.status = .queued := by
  have idle := quiet.idle task member owned
  cases status : task.status <;> simp [status, Status.pending, Status.active] at pending idle ⊢

theorem one_pending (wellFormed : WellFormed db) {left right : Task} (leftMember : left ∈ db.tasks)
    (rightMember : right ∈ db.tasks) (leftOwned : pair.owns left = true)
    (rightOwned : pair.owns right = true) (leftPending : left.status.pending = true)
    (rightPending : right.status.pending = true) : left = right := by
  by_contra different
  have ids : left.id ≠ right.id := fun same =>
    different (List.inj_on_of_nodup_map wellFormed.unique leftMember rightMember same)
  have apart := wellFormed.pending.apart leftMember rightMember ids
  rw [collides_iff.mpr ⟨leftPending, rightPending, samePair_of_owns leftOwned rightOwned⟩] at apart
  contradiction

theorem updateSelected_none {matching : Task → Bool} {change : Task → Task}
    (absent : ∀ task ∈ db.tasks, matching task = false) :
    updateSelected db (TableLib.first newestFirst (db.tasks.filter matching)) change =
      .error .noRows := by
  have none : db.tasks.filter matching = [] := by
    refine List.filter_eq_nil_iff.mpr fun task member => ?_
    rw [absent task member]
    exact Bool.false_ne_true
  rw [none]
  rfl

theorem Quiet.register_none (quiet : Quiet pair db) (headSha : Option String) :
    registerPlannedCommentForActiveTask db pair.issue pair.agent headSha comment = .error .noRows := by
  refine updateSelected_none fun task member => ?_
  rw [← Bool.not_eq_true]
  intro matched
  simp only [Bool.and_eq_true, decide_eq_true_eq] at matched
  obtain ⟨⟨⟨issue, agent⟩, active⟩, -⟩ := matched
  rw [quiet.idle task member (owns_iff.mpr ⟨issue, agent⟩)] at active
  contradiction

theorem merge_none {data : Resolved}
    (absent : ∀ task ∈ db.tasks, pair.owns task = true → task.status = .queued →
      sameHead pair.headSha task = false) :
    mergeCommentIntoPendingTask pair db comment (.resolved data) = (db, .noPendingTask) := by
  have missed : TaskQueue.mergeCommentIntoPendingTask db pair.issue pair.agent pair.headSha
      (data.trigger comment) = .error .noRows := by
    refine updateSelected_none fun task member => ?_
    rw [← Bool.not_eq_true]
    intro matched
    simp only [Bool.and_eq_true, decide_eq_true_eq] at matched
    obtain ⟨⟨⟨issue, agent⟩, queued⟩, head⟩ := matched
    rw [absent task member (owns_iff.mpr ⟨issue, agent⟩) queued] at head
    contradiction
  simp only [mergeCommentIntoPendingTask, missed]

theorem updateSelected_some {matching : Task → Bool} {change : Task → Task} (wellFormed : WellFormed db)
    (present : ∃ task ∈ db.tasks, matching task = true)
    (status : ∀ task, (change task).status = task.status)
    (issue : ∀ task, (change task).issueId = task.issueId)
    (agent : ∀ task, (change task).agentId = task.agentId) :
    ∃ task ∈ db.tasks, matching task = true ∧
      updateSelected db (TableLib.first newestFirst (db.tasks.filter matching)) change =
        .ok ({ db with tasks := TableLib.updateWhere (fun row => row.id = task.id) change db.tasks },
          change task) := by
  obtain ⟨candidate, listed, candidateMatched⟩ := present
  cases selected : TableLib.first newestFirst (db.tasks.filter matching) with
  | none =>
      have empty := TableLib.first_eq_none.mp selected
      have member : candidate ∈ db.tasks.filter matching := List.mem_filter.mpr
        ⟨listed, candidateMatched⟩
      rw [empty] at member
      contradiction
  | some task =>
      obtain ⟨member, matched⟩ := List.mem_filter.mp (TableLib.first_mem selected)
      have unique : PendingUnique
          (TableLib.updateWhere (fun row => row.id = task.id) change db.tasks) := by
        refine wellFormed.pending.map (fun row _ pending => ?_) fun row _ => ?_
        · split at pending
          · rename_i chosen
            rw [if_pos chosen]
            exact ⟨by rw [← status row]; exact pending, issue row⟩
          · rename_i other
            rw [if_neg other]
            exact ⟨pending, rfl⟩
        · split
          · exact agent row
          · rfl
      refine ⟨task, member, matched, ?_⟩
      have found := getAgentTask_eq wellFormed.unique member
      simp only [getAgentTask] at found
      simp only [updateSelected, updateOne, found, commit, if_pos unique]

structure Advanced (pair : Pair) (db next : Db) : Prop where
  quiet : Quiet pair next
  mergeable : Mergeable pair next
  holding : ∀ comment, Holding pair db comment → Holding pair next comment

theorem Advanced.refl (quiet : Quiet pair db) (mergeable : Mergeable pair db) : Advanced pair db db :=
  ⟨quiet, mergeable, fun _ holding => holding⟩

def mergedTable (db : Db) (task : Task) (trigger : Trigger) : List Task :=
  TableLib.updateWhere (fun row => row.id = task.id) (Task.mergeComment trigger) db.tasks

theorem Quiet.merge (quiet : Quiet pair db) (mergeable : Mergeable pair db)
    (occupied : Occupied pair db) (data : Resolved) :
    ∃ next, mergeCommentIntoPendingTask pair db comment (.resolved data) = (next, .succeeded) ∧
      Advanced pair db next ∧ Holding pair next comment := by
  obtain ⟨queuedTask, queuedMember, queuedOwned, isQueued⟩ := occupied
  obtain ⟨task, member, matched, merged⟩ := @updateSelected_some db
    (fun task => task.issueId = some pair.issue && task.agentId = pair.agent && task.status = .queued &&
      sameHead pair.headSha task)
    (Task.mergeComment (data.trigger comment)) quiet.toWellFormed ⟨queuedTask, queuedMember, by
      have head := mergeable queuedTask queuedMember queuedOwned isQueued
      obtain ⟨issue, agent⟩ := owns_iff.mp queuedOwned
      simp [issue, agent, isQueued, head]⟩ (fun _ => rfl) (fun _ => rfl) fun _ => rfl
  have done : mergeCommentIntoPendingTask pair db comment (.resolved data) =
      ({ db with tasks := mergedTable db task (data.trigger comment) }, .succeeded) := by
    simp only [mergeCommentIntoPendingTask, TaskQueue.mergeCommentIntoPendingTask, merged, mergedTable]
  have old : ∀ row ∈ mergedTable db task (data.trigger comment),
      ∃ before ∈ db.tasks, row.status = before.status ∧ pair.owns row = pair.owns before ∧
        row.headSha = before.headSha := by
    intro row listed
    rcases TableLib.mem_updateWhere listed with ⟨inTable, -⟩ | ⟨before, inTable, -, rfl⟩
    · exact ⟨row, inTable, rfl, rfl, rfl⟩
    · exact ⟨before, inTable, rfl, rfl, rfl⟩
  refine ⟨_, done, ⟨⟨?_, ?_⟩, ?_, ?_⟩, ?_⟩
  · have simulated := @merge_simulated pair db comment (.resolved data)
    rw [done] at simulated
    exact simulated.wellFormed quiet.toWellFormed
  · intro row listed owned
    obtain ⟨before, inTable, status, owns, -⟩ := old row listed
    rw [status]
    exact quiet.idle before inTable (owns ▸ owned)
  · intro row listed owned queued
    obtain ⟨before, inTable, status, owns, head⟩ := old row listed
    have same := mergeable before inTable (owns ▸ owned) (status ▸ queued)
    rw [sameHead] at same ⊢
    rw [head]
    exact same
  · rintro held ⟨row, listed, owned, queued, planned⟩
    by_cases chosen : row.id = task.id
    · exact ⟨_, List.mem_map.mpr ⟨row, listed, if_pos (by simpa using chosen)⟩, owned, queued,
        planned_mergeComment _ row planned⟩
    · exact ⟨row, List.mem_map.mpr ⟨row, listed, by simp [chosen]⟩, owned, queued, planned⟩
  · obtain ⟨row, listed, owned, queued, triggered⟩ := merge_succeeded quiet.unique done
    exact ⟨row, listed, owned, queued, planned_of_trigger triggered⟩

theorem enqueue_occupied (occupied : ∃ task ∈ db.tasks, pair.owns task = true ∧
    task.status.pending = true)
    (trigger : CommentTrigger) (data : Resolved) :
    enqueueSingleCommentTrigger pair db trigger comment (.resolved data) =
      if trigger.namesDuplicates then .error .duplicatePendingTask else .error .other := by
  obtain ⟨task, member, owned, pending⟩ := occupied
  have refused : createAgentTask db pair.issue (commentTask pair trigger comment data) =
      .error .uniqueViolation := by
    have broken : ¬ PendingUnique (db.tasks ++
        [Task.forIssue pair.issue (commentTask pair trigger comment data) db.now db.nextId]) := by
      rw [pendingUnique_append]
      rintro ⟨-, apart⟩
      have collide := apart task member
      rw [collides_iff.mpr ⟨pending, rfl, samePair_of_owns owned (owns_iff.mpr ⟨rfl, rfl⟩)⟩] at collide
      contradiction
    simp only [createAgentTask, TaskQueue.insert, commit, if_neg broken]
  simp only [enqueueSingleCommentTrigger, refused]

theorem Quiet.enqueue (quiet : Quiet pair db) (free : ¬ Occupied pair db) (trigger : CommentTrigger)
    (data : Resolved) :
    ∃ next, enqueueSingleCommentTrigger pair db trigger comment (.resolved data) = .ok next ∧
      Advanced pair db next ∧ Holding pair next comment := by
  have room : PendingUnique (db.tasks ++
      [Task.forIssue pair.issue (commentTask pair trigger comment data) db.now db.nextId]) := by
    refine pendingUnique_append.mpr ⟨quiet.pending, fun task member => ?_⟩
    rw [← Bool.not_eq_true]
    intro collide
    obtain ⟨pending, -, same⟩ := collides_iff.mp collide
    have owned := @owns_of_samePair pair _ _ same (owns_iff.mpr ⟨rfl, rfl⟩)
    exact free ⟨task, member, owned, quiet.queued_of_pending member owned pending⟩
  have done : enqueueSingleCommentTrigger pair db trigger comment (.resolved data) =
      .ok { db with
        tasks := db.tasks ++
          [Task.forIssue pair.issue (commentTask pair trigger comment data) db.now db.nextId]
        nextId := db.nextId + 1 } := by
    simp only [enqueueSingleCommentTrigger, createAgentTask, TaskQueue.insert, commit, if_pos room]
  refine ⟨_, done, ⟨⟨?_, ?_⟩, ?_, ?_⟩, ?_⟩
  · exact (enqueue_simulated done).wellFormed quiet.toWellFormed
  · intro row listed owned
    rcases List.mem_append.mp listed with before | new
    · exact quiet.idle row before owned
    · rw [List.mem_singleton.mp new]
      rfl
  · intro row listed owned queued
    rcases List.mem_append.mp listed with before | new
    · exact absurd ⟨row, before, owned, queued⟩ free
    · rw [List.mem_singleton.mp new]
      simp [sameHead, Task.forIssue, commentTask]
  · intro held holding
    exact absurd holding.occupied free
  · obtain ⟨row, listed, owned, queued, triggered⟩ := enqueue_covers done
    exact ⟨row, listed, owned, queued, planned_of_trigger triggered⟩

end Statements

def pcOpen (pair : Pair) (db : Db) : Pc → Prop
  | .flag => True
  | .enqueue _ => True
  | .merge _ _ => Occupied pair db
  | .handOffRegister _ => Occupied pair db
  | .handOffMerge _ => Occupied pair db
  | _ => False

def Progress.open (pair : Pair) (db : Db) (comment : Id) : Progress → Prop
  | .goto later => pcOpen pair db later
  | .returned outcome => if outcome.success then Holding pair db comment else Occupied pair db
  | .handedOff _ => Holding pair db comment

theorem flagged_row {pair : Pair} {db : Db} {comment : Id}
    (flagged : hasPendingTaskForIssueAndAgent pair db comment = true) :
    ∃ task ∈ db.tasks, pair.owns task = true ∧ task.status.pending = true ∧
      sameHead pair.headSha task = true := by
  simp only [hasPendingTaskForIssueAndAgent, hasPendingTaskForIssueAndAgentExcludingTriggerComment,
    List.any_eq_true, Bool.and_eq_true, decide_eq_true_eq] at flagged
  obtain ⟨task, member, ⟨⟨⟨issue, agent⟩, pending⟩, -⟩, head⟩ := flagged
  exact ⟨task, member, owns_iff.mpr ⟨issue, agent⟩, pending, head⟩

theorem callStep_open {pair : Pair} {db : Db} {trigger : CommentTrigger} {comment : Id}
    {data : Resolved}
    {pc : Pc} (quiet : Quiet pair db) (mergeable : Mergeable pair db) (standing : pcOpen pair db pc) :
    Advanced pair db (callStep pair db trigger comment (.resolved data) pc).1 ∧
      (callStep pair db trigger comment (.resolved data) pc).2.open pair
        (callStep pair db trigger comment (.resolved data) pc).1 comment := by
  cases pc with
  | flag =>
      simp only [callStep]
      split
      · rename_i flagged
        obtain ⟨task, member, owned, pending, -⟩ := flagged_row flagged
        exact ⟨.refl quiet mergeable, task, member, owned, quiet.queued_of_pending member owned pending⟩
      · exact ⟨.refl quiet mergeable, trivial⟩
  | merge attempt lostRace =>
      obtain ⟨next, merging, advanced, holding⟩ :=
        @Quiet.merge pair db comment quiet mergeable standing data
      simp only [callStep, merging]
      exact ⟨advanced, holding⟩
  | enqueue attempt =>
      by_cases occupied : Occupied pair db
      · obtain ⟨task, member, owned, queued⟩ := occupied
        have refused := @enqueue_occupied pair db comment
          ⟨task, member, owned, by rw [queued]; rfl⟩ trigger data
        simp only [callStep, refused]
        cases trigger.namesDuplicates with
        | false => exact ⟨.refl quiet mergeable, task, member, owned, queued⟩
        | true =>
            simp only [if_true]
            split
            · exact ⟨.refl quiet mergeable, task, member, owned, queued⟩
            · exact ⟨.refl quiet mergeable, task, member, owned, queued⟩
      · obtain ⟨next, enqueueing, advanced, holding⟩ :=
          @Quiet.enqueue pair db comment quiet occupied trigger data
        simp only [callStep, enqueueing]
        exact ⟨advanced, holding⟩
  | handOffRegister attempt =>
      have absent := @Quiet.register_none pair db comment quiet none
      simp only [callStep, absent]
      exact ⟨.refl quiet mergeable, standing⟩
  | handOffMerge attempt =>
      obtain ⟨next, merging, advanced, holding⟩ :=
        @Quiet.merge pair db comment quiet mergeable standing data
      simp only [callStep, merging]
      exact ⟨advanced, holding⟩
  | active attempt => exact standing.elim
  | register attempt => exact standing.elim
  | handOffEnqueue attempt => exact standing.elim

def Thread.owes (comments : List Comment) (comment : Id) : Thread → Prop
  | .listing completed => comment ∈ reconcilable comments completed
  | .calling current _ _ _ todo => comment = current ∨ comment ∈ todo

def Thread.open (pair : Pair) (db : Db) : Thread → Prop
  | .listing _ => True
  | .calling _ _ pc replay _ => replay = true ∧ pcOpen pair db pc

structure Promised (pair : Pair) (comments : List Comment) (comment : Id) (state : Db × List Thread) :
    Prop where
  quiet : Quiet pair state.1
  mergeable : Mergeable pair state.1
  threads : ∀ thread ∈ state.2, thread.open pair state.1
  single : state.2.length ≤ 1
  promise : Holding pair state.1 comment ∨ ∃ thread ∈ state.2, thread.owes comments comment

theorem nextReplay_open {pair : Pair} {db : Db} {todo : List Id} :
    ∀ thread ∈ nextReplay todo, thread.open pair db := by
  cases todo with
  | nil => exact fun _ member => absurd member List.not_mem_nil
  | cons comment rest =>
      intro thread member
      rw [List.mem_singleton.mp member]
      exact ⟨rfl, trivial⟩

theorem nextReplay_owes {comments : List Comment} {comment : Id} {todo : List Id}
    (owed : comment ∈ todo) : ∃ thread ∈ nextReplay todo, thread.owes comments comment := by
  cases todo with
  | nil => contradiction
  | cons first rest =>
      rcases List.mem_cons.mp owed with rfl | later
      · exact ⟨_, List.mem_cons_self, Or.inl rfl⟩
      · exact ⟨_, List.mem_cons_self, Or.inr later⟩

theorem threadStep_open {pair : Pair} {comments : List Comment} {db : Db} {thread : Thread}
    {computed : CommentTrigger} {data : Resolved} (quiet : Quiet pair db)
    (mergeable : Mergeable pair db)
    (standing : thread.open pair db) (comment : Id) :
    Advanced pair db (threadStep pair comments db computed (.resolved data) thread).1 ∧
    (∀ later ∈ (threadStep pair comments db computed (.resolved data) thread).2.1,
      later.open pair (threadStep pair comments db computed (.resolved data) thread).1) ∧
    (thread.owes comments comment →
      Holding pair (threadStep pair comments db computed (.resolved data) thread).1 comment ∨
      ∃ later ∈ (threadStep pair comments db computed (.resolved data) thread).2.1,
        later.owes comments comment) := by
  cases thread with
  | listing completed =>
      exact ⟨.refl quiet mergeable, nextReplay_open, fun owed => Or.inr (nextReplay_owes owed)⟩
  | calling current stored pc replay todo =>
      obtain ⟨rfl, standing⟩ := standing
      obtain ⟨advanced, progress⟩ := @callStep_open pair db (pc.routed computed stored) current data
        pc quiet mergeable standing
      simp only [threadStep]
      split <;> rename_i next _ stepped <;> rw [stepped] at advanced progress
      · refine ⟨advanced, fun later member => ?_, fun owed => Or.inr ⟨_, List.mem_cons_self, owed⟩⟩
        rw [List.mem_singleton.mp member]
        exact ⟨rfl, progress⟩
      · simp only [Progress.open] at progress
        simp only [if_true]
        split
        · rename_i success
          rw [if_pos success] at progress
          refine ⟨advanced, nextReplay_open, fun owed => ?_⟩
          rcases owed with rfl | later
          · exact Or.inl progress
          · exact Or.inr (nextReplay_owes later)
        · rename_i blocked
          rw [if_neg blocked] at progress
          refine ⟨advanced, fun later member => ?_, fun owed => Or.inr ⟨_, List.mem_cons_self, owed⟩⟩
          rw [List.mem_singleton.mp member]
          exact ⟨rfl, progress⟩
      · refine ⟨advanced, nextReplay_open, fun owed => ?_⟩
        rcases owed with rfl | later
        · exact Or.inl progress
        · exact Or.inr (nextReplay_owes later)

theorem Promised.step {pair : Pair} {comments : List Comment} {comment : Id} {state : Db × List Thread}
    (promised : Promised pair comments comment state) (supply : Supply) :
    Promised pair comments comment (soloStep pair comments state supply) := by
  obtain ⟨db, tail⟩ := state
  cases tail with
  | nil => exact promised
  | cons thread rest =>
      have last : rest = [] := by
        have single := promised.single
        rw [List.length_cons] at single
        exact List.length_eq_zero_iff.mp (by omega)
      subst last
      obtain ⟨advanced, later, owing⟩ := @threadStep_open pair comments db thread supply.1 supply.2
        promised.quiet promised.mergeable (promised.threads thread List.mem_cons_self) comment
      rw [soloStep_cons, List.append_nil]
      refine ⟨advanced.quiet, advanced.mergeable, later, threadStep_length .., ?_⟩
      rcases promised.promise with holding | ⟨owner, member, owed⟩
      · exact Or.inl (advanced.holding comment holding)
      · rw [List.mem_singleton.mp member] at owed
        exact owing owed

def otherHeadQueued (pair : Pair) (db : Db) : Bool :=
  db.tasks.any fun task => pair.owns task && task.status = .queued && !sameHead pair.headSha task

def pcBlocked : Pc → Prop
  | .merge _ lostRace => lostRace = true
  | .active _ => False
  | _ => True

def Progress.blocked : Progress → Prop
  | .goto later => pcBlocked later
  | .returned outcome => outcome.success = false
  | .handedOff _ => True

theorem callStep_blocked {pair : Pair} {db : Db} {trigger : CommentTrigger} {comment : Id}
    {data : Resolved} {pc : Pc} (quiet : Quiet pair db) (held : otherHeadQueued pair db = true)
    (standing : pcBlocked pc) :
    (callStep pair db trigger comment (.resolved data) pc).1 = db ∧
      (callStep pair db trigger comment (.resolved data) pc).2.blocked := by
  simp only [otherHeadQueued, List.any_eq_true, Bool.and_eq_true, decide_eq_true_eq,
    Bool.not_eq_true'] at held
  obtain ⟨task, member, ⟨owned, queued⟩, other⟩ := held
  have pending : task.status.pending = true := by rw [queued]; rfl
  have sole : ∀ row ∈ db.tasks, pair.owns row = true → row.status.pending = true → row = task :=
    fun row listed rowOwned rowPending =>
      one_pending quiet.toWellFormed listed member rowOwned owned rowPending pending
  have missed := @merge_none pair db comment data fun row listed rowOwned rowQueued => by
    rw [sole row listed rowOwned (by rw [rowQueued]; rfl)]
    exact other
  have refused := @enqueue_occupied pair db comment ⟨task, member, owned, pending⟩ trigger data
  have absent := @Quiet.register_none pair db comment quiet
  cases pc with
  | flag =>
      simp only [callStep]
      split
      · rename_i flagged
        obtain ⟨row, listed, rowOwned, rowPending, head⟩ := flagged_row flagged
        rw [sole row listed rowOwned rowPending, other] at head
        contradiction
      · exact ⟨rfl, trivial⟩
  | merge attempt lostRace =>
      obtain rfl : lostRace = true := standing
      simp only [callStep, missed, if_true]
      exact ⟨trivial, trivial⟩
  | active attempt => exact standing.elim
  | register attempt =>
      simp only [callStep, absent]
      exact ⟨trivial, trivial⟩
  | enqueue attempt =>
      simp only [callStep, refused]
      cases trigger.namesDuplicates with
      | false => exact ⟨rfl, rfl⟩
      | true =>
          simp only [if_true]
          split
          · exact ⟨rfl, rfl⟩
          · exact ⟨rfl, rfl⟩
  | handOffRegister attempt =>
      simp only [callStep, absent]
      exact ⟨trivial, trivial⟩
  | handOffMerge attempt =>
      simp only [callStep, missed]
      exact ⟨trivial, trivial⟩
  | handOffEnqueue attempt =>
      simp only [callStep, refused]
      cases trigger.namesDuplicates with
      | false => exact ⟨rfl, trivial⟩
      | true =>
          simp only [if_true]
          split
          · exact ⟨rfl, trivial⟩
          · exact ⟨rfl, trivial⟩

def Thread.blocked : Thread → Prop
  | .listing _ => True
  | .calling _ _ pc replay _ => replay = true ∧ pcBlocked pc

theorem nextReplay_blocked {todo : List Id} : ∀ thread ∈ nextReplay todo, thread.blocked := by
  cases todo with
  | nil => exact fun _ member => absurd member List.not_mem_nil
  | cons comment rest =>
      intro thread member
      rw [List.mem_singleton.mp member]
      exact ⟨rfl, trivial⟩

theorem soloStep_blocked {pair : Pair} {comments : List Comment} {state : Db × List Thread}
    (quiet : Quiet pair state.1) (held : otherHeadQueued pair state.1 = true)
    (standing : ∀ thread ∈ state.2, thread.blocked) (supply : Supply) :
    (soloStep pair comments state supply).1 = state.1 ∧
      ∀ thread ∈ (soloStep pair comments state supply).2, thread.blocked := by
  obtain ⟨db, tail⟩ := state
  cases tail with
  | nil => exact ⟨rfl, standing⟩
  | cons thread rest =>
      have appended : ∀ {new : List Thread}, (∀ later ∈ new, later.blocked) →
          ∀ later ∈ new ++ rest, later.blocked := by
        intro new blocked later member
        rcases List.mem_append.mp member with inNew | inRest
        · exact blocked later inNew
        · exact standing later (List.mem_cons_of_mem _ inRest)
      rw [soloStep_cons]
      cases thread with
      | listing completed => exact ⟨rfl, appended nextReplay_blocked⟩
      | calling current stored pc replay todo =>
          obtain ⟨isReplay, blocked⟩ := standing _ List.mem_cons_self
          subst isReplay
          obtain ⟨same, progress⟩ := @callStep_blocked pair db (pc.routed supply.1 stored) current
            supply.2 pc quiet held blocked
          simp only [threadStep]
          split <;> rename_i next _ stepped <;> rw [stepped] at same progress <;>
            simp only [Progress.blocked] at progress
          · refine ⟨same, appended fun later member => ?_⟩
            rw [List.mem_singleton.mp member]
            exact ⟨rfl, progress⟩
          · simp only [progress, if_true]
            refine ⟨same, appended fun later member => ?_⟩
            rw [List.mem_singleton.mp member]
            exact ⟨rfl, trivial⟩
          · exact ⟨same, appended nextReplay_blocked⟩

end MulticaOS.Comments
