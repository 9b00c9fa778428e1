import MulticaOS.Lib.Lists
import MulticaOS.TaskQueue.Steps

/-!
`ClaimTasksForRuntimes`: one call that promotes, re-delivers and claims for a list of runtimes, every
part in a transaction of its own.  What the call has moved is what it hands back, whichever of its
statements fail.
-/

namespace MulticaOS.TaskQueue

/-- What a statement or transaction of the call meets: whether it fails, the time before it and the
rows that others hold locked. -/
structure Turn where
  fails : Bool
  elapsed : Nat
  locked : List Id

/-- The turns of one call.  Every agent is tried at most once, and `isEmpty` is what the cache of
empty runtimes answers. -/
structure Turns where
  promote : Turn
  reclaim : Turn
  isEmpty : Id → Bool
  list : Turn
  claim : Id → Turn

inductive BatchClaimError where
  | promote
  | reclaim
  | list
  | claim
  deriving DecidableEq

def elapse (db : Db) (turn : Turn) : Db := { db with now := db.now + turn.elapsed }

def uniqueIDs (runtimeIds : List Id) : List Id :=
  runtimeIds.foldl (fun seen runtime => if seen.contains runtime then seen else seen ++ [runtime]) []

/-- `ORDER BY priority DESC, dispatched_at ASC`. -/
def Task.reclaimedBefore (left right : Task) : Bool :=
  right.priority < left.priority ||
    (left.priority = right.priority && left.dispatchedAt.getD 0 < right.dispatchedAt.getD 0)

def ordered (precedes : Task → Task → Bool) (tasks : List Task) : List Task :=
  tasks.insertionSort fun left right => precedes right left = false

/-- The `LIMIT` of the re-delivery is the `int32` of `maxTasks`; a negative one is refused. -/
def reclaimStaleDispatchedTasksForRuntimes (db : Db) (turn : Turn) (runtimes : List Id) (maxTasks : Int) :
    Option (Db × List Task) :=
  let limit := maxTasks.bmod (2 ^ 32)
  let stale := ordered Task.reclaimedBefore (db.tasks.filter (staleClaim db runtimes turn.locked))
  if turn.fails || limit < 0 then none
  else
    (reclaimStaleDispatchedTasks db runtimes turn.locked
      ((stale.take limit.toNat).map Task.id)).toOption

def listQueuedClaimCandidatesByRuntimes (db : Db) (runtimes : List Id) : List Task :=
  ordered Task.claimedBefore
    (db.tasks.filter fun task => runtimes.contains task.runtimeId && task.status = .queued)

def claimTask (db : Db) (turn : Turn) (agent : Id) : Option (Db × Option Task) :=
  if turn.fails then none
  else if db.maxConcurrentTasks agent ≤ countRunningTasks db agent then some (db, none)
  else
    match claimAgentTask db agent turn.locked with
    | .ok (next, task) => some (next, some task)
    | .error .noRows => some (db, none)
    | .error _ => none

def claimCandidates (turns : Turns) (runtimeIds : List Id) (maxTasks : Nat) :
    List Task → List Id → Db → List Task → Except BatchClaimError (List Task) × Db
  | [], _, db, claimed => (.ok claimed, db)
  | candidate :: rest, tried, db, claimed =>
      if maxTasks ≤ claimed.length then (.ok claimed, db)
      else if tried.contains candidate.agentId then
        claimCandidates turns runtimeIds maxTasks rest tried db claimed
      else
        let turn := turns.claim candidate.agentId
        let db := elapse db turn
        let tried := candidate.agentId :: tried
        match claimTask db turn candidate.agentId with
        | none => (if claimed.isEmpty then .error .claim else .ok claimed, db)
        | some (db, none) => claimCandidates turns runtimeIds maxTasks rest tried db claimed
        | some (db, some task) =>
            -- a task of another machine's runtime stays behind, dispatched
            claimCandidates turns runtimeIds maxTasks rest tried db
              (if runtimeIds.contains task.runtimeId then claimed ++ [task] else claimed)

def claimTasksForRuntimes (turns : Turns) (db : Db) (runtimeIds : List Id) (maxTasks : Int) :
    Except BatchClaimError (List Task) × Db :=
  if runtimeIds.isEmpty || maxTasks ≤ 0 then (.ok [], db)
  else
    let unique := uniqueIDs runtimeIds
    let db := elapse db turns.promote
    match if turns.promote.fails then none else (promoteDueDeferredTasksForRuntimes db unique).toOption with
    | none => (.error .promote, db)
    | some (db, _) =>
        let db := elapse db turns.reclaim
        match reclaimStaleDispatchedTasksForRuntimes db turns.reclaim unique maxTasks with
        | none => (.error .reclaim, db)
        | some (db, claimed) =>
            if maxTasks ≤ claimed.length then (.ok (claimed.take maxTasks.toNat), db)
            else
              let nonEmpty := unique.filter fun runtime => !turns.isEmpty runtime
              if nonEmpty.isEmpty then (.ok claimed, db)
              else
                let db := elapse db turns.list
                if turns.list.fails then (if claimed.isEmpty then .error .list else .ok claimed, db)
                else
                  claimCandidates turns runtimeIds maxTasks.toNat
                    (listQueuedClaimCandidatesByRuntimes db nonEmpty) [] db claimed

def HandedOut (before after : Db) (row : Task) : Prop :=
  row ∈ after.tasks ∧ row.status = .dispatched ∧ row ∉ before.tasks

/-- The tasks a call holds are distinct dispatched rows of its runtimes, and all that it has moved of
these. -/
structure Accounted (runtimeIds : List Id) (before db : Db) (claimed : List Task) : Prop where
  unique : (db.tasks.map Task.id).Nodup
  stored : ∀ task ∈ claimed, task ∈ db.tasks ∧ task.status = .dispatched ∧ task.runtimeId ∈ runtimeIds
  distinct : (claimed.map Task.id).Nodup
  complete : ∀ row, HandedOut before db row → row.runtimeId ∈ runtimeIds → row ∈ claimed

section

variable {runtimeIds : List Id} {before db next : Db} {claimed : List Task}

theorem accounted_nothing (unique : (db.tasks.map Task.id).Nodup) : Accounted runtimeIds db db [] := by
  refine ⟨unique, by simp, List.nodup_nil, ?_⟩
  rintro row ⟨stored, -, unmoved⟩
  exact absurd stored unmoved

theorem Accounted.of_tasks (accounted : Accounted runtimeIds before db claimed)
    (same : next.tasks = db.tasks) : Accounted runtimeIds before next claimed := by
  refine ⟨by rw [same]; exact accounted.unique, ?_, accounted.distinct, ?_⟩
  · rw [same]
    exact accounted.stored
  · rintro row ⟨stored, dispatched, unmoved⟩
    rw [same] at stored
    exact accounted.complete row ⟨stored, dispatched, unmoved⟩

def taken (runtimeIds : List Id) (rows : List Task) : List Task :=
  rows.filter fun task => task.status = .dispatched && runtimeIds.contains task.runtimeId

theorem mem_taken {rows : List Task} {task : Task} : task ∈ taken runtimeIds rows ↔
    task ∈ rows ∧ task.status = .dispatched ∧ task.runtimeId ∈ runtimeIds := by
  simp [taken]

theorem Accounted.updated (accounted : Accounted runtimeIds before db claimed) {matching : Task → Bool}
    {change : Task → Task} (tasks : next.tasks = TableLib.updateWhere matching change db.tasks)
    (keeps : ∀ task, (change task).id = task.id) (apart : ∀ task ∈ claimed, matching task = false) :
    Accounted runtimeIds before next
      (claimed ++ taken runtimeIds ((db.tasks.filter matching).map change)) := by
  have ids : next.tasks.map Task.id = db.tasks.map Task.id := by
    rw [tasks]
    exact TableLib.map_updateWhere keeps db.tasks
  have changed : ∀ old ∈ db.tasks, matching old = true → change old ∈ next.tasks := by
    intro old member matched
    rw [tasks]
    exact List.mem_map.mpr ⟨old, member, if_pos matched⟩
  refine ⟨ids ▸ accounted.unique, ?_, ?_, ?_⟩
  · intro task member
    rcases List.mem_append.mp member with held | moved
    · obtain ⟨stored, dispatched, own⟩ := accounted.stored task held
      refine ⟨?_, dispatched, own⟩
      rw [tasks]
      refine List.mem_map.mpr ⟨task, stored, ?_⟩
      rw [apart task held]
      rfl
    · obtain ⟨returned, dispatched, own⟩ := mem_taken.mp moved
      obtain ⟨old, selected, rfl⟩ := List.mem_map.mp returned
      obtain ⟨stored, matched⟩ := List.mem_filter.mp selected
      exact ⟨changed old stored matched, dispatched, own⟩
  · rw [List.map_append]
    refine List.Nodup.append accounted.distinct ?_ ?_
    · have some : (taken runtimeIds ((db.tasks.filter matching).map change)).map Task.id |>.Sublist
          (db.tasks.map Task.id) := by
        have all : ((db.tasks.filter matching).map change).map Task.id =
            (db.tasks.filter matching).map Task.id := by
          rw [List.map_map]
          exact List.map_congr_left fun task _ => keeps task
        refine (List.Sublist.map Task.id List.filter_sublist).trans ?_
        rw [all]
        exact List.Sublist.map Task.id List.filter_sublist
      exact accounted.unique.sublist some
    · intro id held moved
      obtain ⟨task, isHeld, rfl⟩ := List.mem_map.mp held
      obtain ⟨row, isMoved, same⟩ := List.mem_map.mp moved
      obtain ⟨old, selected, rfl⟩ := List.mem_map.mp (mem_taken.mp isMoved).1
      obtain ⟨stored, matched⟩ := List.mem_filter.mp selected
      rw [keeps] at same
      have same := List.inj_on_of_nodup_map accounted.unique stored (accounted.stored task isHeld).1 same
      rw [same, apart task isHeld] at matched
      contradiction
  · rintro row ⟨stored, dispatched, unmoved⟩ own
    rw [tasks] at stored
    rcases TableLib.mem_updateWhere stored with ⟨inTable, -⟩ | ⟨old, inTable, matched, rfl⟩
    · exact List.mem_append_left _ (accounted.complete row ⟨inTable, dispatched, unmoved⟩ own)
    · refine List.mem_append_right _ (mem_taken.mpr ⟨?_, dispatched, own⟩)
      exact List.mem_map_of_mem (List.mem_filter.mpr ⟨inTable, matched⟩)

theorem Accounted.promoted (accounted : Accounted runtimeIds before db []) {runtimes : List Id}
    {rows : List Task} (done : promoteDueDeferredTasksForRuntimes db runtimes = .ok (next, rows)) :
    Accounted runtimeIds before next [] := by
  obtain ⟨stored, -, -⟩ := updateMany_ok done
  have updated := accounted.updated (congrArg Db.tasks stored) (fun _ => rfl) (by simp)
  have none : taken runtimeIds ((db.tasks.filter (dueDeferred runtimes db.now)).map Task.promote) = [] := by
    refine List.filter_eq_nil_iff.mpr fun row member => ?_
    obtain ⟨old, -, rfl⟩ := List.mem_map.mp member
    simp [Task.promote]
  rw [none] at updated
  exact updated

theorem mem_uniqueIDs {runtime : Id} : runtime ∈ uniqueIDs runtimeIds ↔ runtime ∈ runtimeIds := by
  have seen : ∀ (ids kept : List Id), runtime ∈ ids.foldl
      (fun kept other => if kept.contains other then kept else kept ++ [other]) kept ↔
        runtime ∈ kept ∨ runtime ∈ ids := by
    intro ids
    induction ids with
    | nil => simp
    | cons head rest ih =>
        intro kept
        rw [List.foldl_cons, ih, List.mem_cons]
        split
        · rename_i known
          have stored : head ∈ kept := by simpa using known
          constructor
          · rintro (old | later)
            · exact .inl old
            · exact .inr (.inr later)
          · rintro (old | rfl | later)
            · exact .inl old
            · exact .inl stored
            · exact .inr later
        · rw [List.mem_append, List.mem_singleton, or_assoc]
  exact (seen runtimeIds []).trans (by simp)

theorem ok_of_toOption {Value : Type} {result : Except DbError Value} {value : Value}
    (done : result.toOption = some value) : result = .ok value := by
  cases result with
  | error error => contradiction
  | ok stored => exact congrArg _ (Option.some.inj done)

theorem reclaim_ok {turn : Turn} {runtimes : List Id} {maxTasks : Int} {rows : List Task}
    (done : reclaimStaleDispatchedTasksForRuntimes db turn runtimes maxTasks = some (next, rows)) :
    ∃ chosen : List Id, chosen.length ≤ (maxTasks.bmod (2 ^ 32)).toNat ∧
      reclaimStaleDispatchedTasks db runtimes turn.locked chosen = .ok (next, rows) := by
  simp only [reclaimStaleDispatchedTasksForRuntimes] at done
  split at done
  · contradiction
  · refine ⟨_, ?_, ok_of_toOption done⟩
    rw [List.length_map, List.length_take]
    exact Nat.min_le_left _ _

theorem reclaimed_length {turn : Turn} {runtimes : List Id} {maxTasks : Int} {rows : List Task}
    (unique : (db.tasks.map Task.id).Nodup) (positive : 0 < maxTasks)
    (done : reclaimStaleDispatchedTasksForRuntimes db turn runtimes maxTasks = some (next, rows)) :
    rows.length ≤ maxTasks.toNat := by
  obtain ⟨chosen, bounded, reclaimed⟩ := reclaim_ok done
  obtain ⟨-, rfl, -⟩ := updateMany_ok reclaimed
  have ids : ((db.tasks.filter fun task => staleClaim db runtimes turn.locked task &&
      chosen.contains task.id).map Task.id).Subperm chosen := by
    refine List.subperm_of_subset (unique.sublist (List.Sublist.map Task.id List.filter_sublist)) ?_
    intro id member
    obtain ⟨task, selected, rfl⟩ := List.mem_map.mp member
    have eligible := (List.mem_filter.mp selected).2
    simp only [Bool.and_eq_true, List.contains_iff_mem] at eligible
    exact eligible.2
  have below := ids.length_le
  have limit : maxTasks.bmod (2 ^ 32) ≤ maxTasks := by
    simp only [Int.bmod, Nat.reducePow, Int.cast_ofNat_Int]
    split <;> omega
  rw [List.length_map] at below ⊢
  omega

theorem Accounted.reclaimed (accounted : Accounted runtimeIds before db []) {turn : Turn} {maxTasks : Int}
    {rows : List Task}
    (done : reclaimStaleDispatchedTasksForRuntimes db turn (uniqueIDs runtimeIds) maxTasks = some (next, rows)) :
    Accounted runtimeIds before next rows := by
  obtain ⟨chosen, -, reclaimed⟩ := reclaim_ok done
  obtain ⟨stored, rfl, -⟩ := updateMany_ok reclaimed
  have updated := accounted.updated (congrArg Db.tasks stored) (fun _ => rfl) (by simp)
  have all : taken runtimeIds ((db.tasks.filter fun task => staleClaim db (uniqueIDs runtimeIds) turn.locked task &&
      chosen.contains task.id).map (Task.claim db.now)) =
      (db.tasks.filter fun task => staleClaim db (uniqueIDs runtimeIds) turn.locked task &&
        chosen.contains task.id).map (Task.claim db.now) := by
    refine List.filter_eq_self.mpr fun row member => ?_
    obtain ⟨old, selected, rfl⟩ := List.mem_map.mp member
    have eligible := (List.mem_filter.mp selected).2
    simp only [staleClaim, Bool.and_eq_true, List.contains_iff_mem, mem_uniqueIDs] at eligible
    simp [Task.claim, eligible.1.1.1.1.1.1]
  rw [all] at updated
  exact updated

theorem claimTask_cases {turn : Turn} {agent : Id} {result : Option Task}
    (unique : (db.tasks.map Task.id).Nodup) (done : claimTask db turn agent = some (next, result)) :
    (result = none ∧ next = db) ∨
      ∃ chosen ∈ db.tasks, chosen.status = .queued ∧ result = some (chosen.claim db.now) ∧
        next.tasks = TableLib.updateWhere (fun row => row.id = chosen.id) (Task.claim db.now) db.tasks := by
  rw [claimTask] at done
  split at done
  · contradiction
  · split at done
    · cases done
      exact .inl ⟨rfl, rfl⟩
    · split at done
      · rename_i stored row claimed
        cases done
        obtain ⟨chosen, selected, updated⟩ := updateSelected_ok claimed
        obtain ⟨listed, eligible⟩ := List.mem_filter.mp (TableLib.first_mem selected)
        obtain ⟨stored_eq, -, old, found, rfl⟩ := updateOne_ok updated
        obtain ⟨eligible, -⟩ : (chosen.agentId = agent ∧ chosen.status = .queued) ∧ True := by
          simp only [claimable, Bool.and_eq_true, decide_eq_true_eq] at eligible
          exact ⟨eligible.1.1, trivial⟩
        have same : old = chosen :=
          List.inj_on_of_nodup_map unique (List.mem_of_find?_eq_some found) listed
            (by simpa using List.find?_some found)
        rw [same]
        exact .inr ⟨chosen, listed, eligible.2, rfl, congrArg Db.tasks stored_eq⟩
      · cases done
        exact .inl ⟨rfl, rfl⟩
      · contradiction

theorem Accounted.taking (accounted : Accounted runtimeIds before db claimed) {now : Nat} {chosen : Task}
    (stored : chosen ∈ db.tasks) (queued : chosen.status = .queued)
    (tasks : next.tasks = TableLib.updateWhere (fun row => row.id = chosen.id) (Task.claim now) db.tasks) :
    Accounted runtimeIds before next
      (if runtimeIds.contains chosen.runtimeId then claimed ++ [chosen.claim now] else claimed) := by
  have updated := accounted.updated tasks (fun _ => rfl) fun task held => by
    obtain ⟨inTable, dispatched, -⟩ := accounted.stored task held
    rw [decide_eq_false_iff_not]
    intro same
    rw [List.inj_on_of_nodup_map accounted.unique inTable stored same, queued] at dispatched
    contradiction
  rw [ListLib.filter_key_eq accounted.unique stored] at updated
  have mine : taken runtimeIds [chosen.claim now] =
      if runtimeIds.contains chosen.runtimeId then [chosen.claim now] else [] := by
    simp only [taken, List.filter_cons, List.filter_nil, Task.claim, decide_true, Bool.true_and]
  rw [List.map_singleton, mine] at updated
  split
  · rename_i listed
    rw [if_pos listed] at updated
    exact updated
  · rename_i foreign
    rw [if_neg foreign, List.append_nil] at updated
    exact updated

/-- How a call ends: with the tasks it has moved, within its limit, or with an error that nothing of
its runtimes was moved before. -/
def Finished (runtimeIds : List Id) (before : Db) (maxTasks : Nat) :
    Except BatchClaimError (List Task) × Db → Prop
  | (.ok claimed, after) => Accounted runtimeIds before after claimed ∧ claimed.length ≤ maxTasks
  | (.error _, after) => Accounted runtimeIds before after []

theorem settled_partial {maxTasks : Nat} (accounted : Accounted runtimeIds before db claimed)
    (within : claimed.length ≤ maxTasks) (error : BatchClaimError) :
    Finished runtimeIds before maxTasks (if claimed.isEmpty then .error error else .ok claimed, db) := by
  split
  · rename_i empty
    rw [List.isEmpty_iff.mp empty] at accounted
    exact accounted
  · exact ⟨accounted, within⟩

theorem claimCandidates_settled (turns : Turns) (maxTasks : Nat) (candidates : List Task) (tried : List Id)
    (accounted : Accounted runtimeIds before db claimed) (within : claimed.length ≤ maxTasks) :
    Finished runtimeIds before maxTasks
      (claimCandidates turns runtimeIds maxTasks candidates tried db claimed) := by
  induction candidates generalizing tried db claimed with
  | nil => exact ⟨accounted, within⟩
  | cons candidate rest ih =>
      rw [claimCandidates]
      split
      · exact ⟨accounted, within⟩
      · rename_i room
        split
        · exact ih tried accounted within
        · have waited : Accounted runtimeIds before (elapse db (turns.claim candidate.agentId)) claimed :=
            accounted.of_tasks rfl
          dsimp only
          split
          · exact settled_partial waited within .claim
          · rename_i result
            rcases claimTask_cases waited.unique result with ⟨-, rfl⟩ | ⟨_, _, _, other, _⟩
            · exact ih _ waited within
            · contradiction
          · rename_i next task result
            rcases claimTask_cases waited.unique result with ⟨other, -⟩ | ⟨chosen, stored, queued, same, tasks⟩
            · contradiction
            · obtain rfl := Option.some.inj same
              have taking := waited.taking stored queued tasks
              refine ih _ taking ?_
              split
              · rw [List.length_append, List.length_singleton]
                omega
              · exact within

theorem claimTasksForRuntimes_settled (turns : Turns) (runtimeIds : List Id) (maxTasks : Int)
    (unique : (db.tasks.map Task.id).Nodup) :
    Finished runtimeIds db maxTasks.toNat (claimTasksForRuntimes turns db runtimeIds maxTasks) := by
  have untouched : Accounted runtimeIds db db [] := accounted_nothing unique
  rw [claimTasksForRuntimes]
  split
  · exact ⟨untouched, Nat.zero_le _⟩
  · rename_i given
    have positive : 0 < maxTasks := by
      simp only [Bool.or_eq_true, decide_eq_true_eq, not_or] at given
      omega
    dsimp only
    split
    · exact untouched.of_tasks rfl
    · rename_i promoted rows result
      have promoted : Accounted runtimeIds db promoted [] := by
        split at result
        · contradiction
        · have waited : Accounted runtimeIds db (elapse db turns.promote) [] := untouched.of_tasks rfl
          exact waited.promoted (ok_of_toOption result)
      have waited : Accounted runtimeIds db (elapse _ turns.reclaim) [] := promoted.of_tasks rfl
      split
      · exact waited
      · rename_i claimed reclaimedResult
        have reclaimed := waited.reclaimed reclaimedResult
        have within := reclaimed_length waited.unique positive reclaimedResult
        split
        · rw [List.take_of_length_le within]
          exact ⟨reclaimed, within⟩
        · split
          · exact ⟨reclaimed, within⟩
          · split
            · have later : Accounted runtimeIds db (elapse _ turns.list) claimed := reclaimed.of_tasks rfl
              exact settled_partial later within .list
            · exact claimCandidates_settled turns _ _ _ (reclaimed.of_tasks rfl) within

end

/-- A call that answers hands out all that it has moved of its runtimes; one that fails has moved
nothing of theirs. -/
theorem claimTasksForRuntimes_complete (turns : Turns) (db : Db) (runtimeIds : List Id) (maxTasks : Int)
    (unique : (db.tasks.map Task.id).Nodup) :
    (∀ claimed after, claimTasksForRuntimes turns db runtimeIds maxTasks = (.ok claimed, after) →
      claimed.length ≤ maxTasks.toNat ∧ (claimed.map Task.id).Nodup ∧
        (∀ task ∈ claimed, task.runtimeId ∈ runtimeIds) ∧
        ∀ row, HandedOut db after row → row.runtimeId ∈ runtimeIds → row ∈ claimed) ∧
    ∀ error after, claimTasksForRuntimes turns db runtimeIds maxTasks = (.error error, after) →
      ∀ row, HandedOut db after row → row.runtimeId ∉ runtimeIds := by
  have settled := claimTasksForRuntimes_settled turns runtimeIds maxTasks unique
  constructor
  · intro claimed after answered
    rw [answered] at settled
    obtain ⟨accounted, within⟩ := settled
    exact ⟨within, accounted.distinct, fun task held => (accounted.stored task held).2.2, accounted.complete⟩
  · intro error after failed row moved own
    rw [failed] at settled
    exact List.not_mem_nil (settled.complete row moved own)

def strayQueue : Db :=
  { initial fun _ => 1 with
    nextId := 3
    tasks := [Task.forIssue 5 { plainTask with agentId := 1, runtimeId := 10 } 0 0,
      Task.forIssue 6 { plainTask with agentId := 1, runtimeId := 20, priority := 4 } 0 1,
      Task.forIssue 7 { plainTask with agentId := 2, runtimeId := 10 } 0 2] }

def failingTurns : Turns where
  promote := ⟨false, 1, []⟩
  reclaim := ⟨false, 1, []⟩
  isEmpty _ := false
  list := ⟨false, 1, []⟩
  claim agent := ⟨agent = 2, 1, []⟩

theorem strayQueue_complete :
    ∃ claimed after, claimTasksForRuntimes failingTurns strayQueue [20, 20] 2 = (.ok claimed, after) ∧
      claimed.length ≤ 2 ∧ (claimed.map Task.id).Nodup ∧ (∀ task ∈ claimed, task.runtimeId ∈ [20, 20]) ∧
        ∀ row, HandedOut strayQueue after row → row.runtimeId ∈ [20, 20] → row ∈ claimed :=
  ⟨_, _, rfl, (claimTasksForRuntimes_complete failingTurns strayQueue [20, 20] 2 (by decide)).1 _ _ rfl⟩

/-- The first claim takes the task of runtime 20, which stays dispatched, and the call fails. -/
theorem error_after_stray : ∃ error after row,
    claimTasksForRuntimes failingTurns strayQueue [10] 2 = (.error error, after) ∧
      HandedOut strayQueue after row := by
  refine ⟨.claim, _, (Task.forIssue 6 { plainTask with agentId := 1, runtimeId := 20, priority := 4 } 0 1).claim 4,
    rfl, ?_, rfl, ?_⟩
  · exact List.mem_cons_of_mem _ List.mem_cons_self
  · intro stored
    have queued : ∀ task ∈ strayQueue.tasks, task.status = .queued := by decide
    have other := queued _ stored
    contradiction

end MulticaOS.TaskQueue
