import MulticaOS.Usage.Edits

/-!
No usage is lost.  Every key of the hourly table is accounted for throughout a run, as long as a
backfill that stamps the watermark does not stamp it past usage that it has not walked over.
-/

namespace MulticaOS.Usage

open CalendarLib
open RollupLib
open RunLib
open UpsertLib

section Consistency

variable {state next : State} {now : Time} {id : Nat}

theorem Consistent.of_same (consistent : Consistent state)
    (usage : ∀ row ∈ next.usage.rows, ∃ old ∈ state.usage.rows, old.taskID = row.taskID)
    (tasks : next.tasks = state.tasks) (issues : next.issues = state.issues)
    (workspaces : next.agentWorkspace = state.agentWorkspace) : Consistent next := by
  constructor
  · intro row member
    obtain ⟨old, oldMember, same⟩ := usage row member
    rw [tasks, ← same]
    exact consistent.usage old oldMember
  · intro id task stored
    rw [issueExists, issues]
    exact consistent.issues id task (tasks ▸ stored)
  · intro id task stored
    rw [sameWorkspace, issues, workspaces]
    exact consistent.workspaces id task (tasks ▸ stored)

theorem upsertTaskUsage_consistent (consistent : Consistent state) (report : UsageReport) :
    Consistent (upsertTaskUsage now report state) := by
  rw [upsertTaskUsage]
  split
  · exact consistent
  · rename_i task stored
    refine ⟨fun row member => ?_, consistent.issues, consistent.workspaces⟩
    rcases Table.mem_upsertRows member with rfl | old | ⟨old, listed, -, rfl⟩
    · show (state.tasks report.taskID).isSome = true
      rw [stored]
      rfl
    · exact consistent.usage row old
    · exact consistent.usage old listed

theorem deleteTaskUsage_consistent (consistent : Consistent state) (key : Nat × String × String) :
    Consistent (deleteTaskUsage now key state) := by
  rw [deleteTaskUsage]
  split
  · exact consistent
  · refine consistent.of_same (fun row member => ⟨row, (List.mem_filter.mp member).1, rfl⟩) rfl rfl rfl

theorem consistent_of_task (consistent : Consistent state) {task : Task}
    (exist : issueExists state task.issueID = true)
    (workspace : sameWorkspace state task.agentID task.issueID = true) (usage : next.usage = state.usage)
    (tasks : next.tasks = Function.update state.tasks id (some task)) (issues : next.issues = state.issues)
    (workspaces : next.agentWorkspace = state.agentWorkspace) : Consistent next := by
  constructor
  · intro row member
    by_cases own : row.taskID = id
    · rw [tasks, own, Function.update_self]
      rfl
    · rw [tasks, Function.update_of_ne own]
      exact consistent.usage row (usage ▸ member)
  · intro other stored found
    rw [issueExists, issues]
    by_cases own : other = id
    · subst own
      rw [tasks, Function.update_self] at found
      cases found
      exact exist
    · rw [tasks, Function.update_of_ne own] at found
      exact consistent.issues other stored found
  · intro other stored found
    rw [sameWorkspace, issues, workspaces]
    by_cases own : other = id
    · subst own
      rw [tasks, Function.update_self] at found
      cases found
      exact workspace
    · rw [tasks, Function.update_of_ne own] at found
      exact consistent.workspaces other stored found

theorem createTask_consistent (consistent : Consistent state) {task : Task}
    (admissible : Admissible state (.createTask id task)) : Consistent (createTask id task state) := by
  rw [createTask]
  split
  · rename_i fresh
    exact consistent_of_task consistent (Bool.and_eq_true_iff.mp fresh).2 admissible rfl rfl rfl rfl
  · exact consistent

theorem updateTask_consistent (consistent : Consistent state) {runtimeID issueID : Option Nat}
    (admissible : Admissible state (.updateTask id runtimeID issueID)) :
    Consistent (updateTask now id runtimeID issueID state) := by
  rw [updateTask]
  split
  · exact consistent
  · rename_i old stored
    by_cases known : issueExists state issueID = true
    · simp only [known, if_true]
      split
      · exact consistent_of_task consistent known (admissible old stored) rfl rfl rfl rfl
      · exact consistent_of_task consistent known (admissible old stored) rfl rfl rfl rfl
    · simp only [known]
      exact consistent

theorem deleteTask_consistent (consistent : Consistent state) : Consistent (deleteTask now id state) := by
  rw [deleteTask]
  split
  · exact consistent
  · have other : ∀ {taskID task}, Function.update state.tasks id none taskID = some task →
        state.tasks taskID = some task := by
      intro taskID task found
      by_cases own : taskID = id
      · rw [own, Function.update_self] at found
        contradiction
      · rw [Function.update_of_ne own] at found
        exact found
    refine ⟨fun row member => ?_, fun taskID task found => consistent.issues taskID task (other found),
      fun taskID task found => consistent.workspaces taskID task (other found)⟩
    obtain ⟨member, apart⟩ := List.mem_filter.mp member
    have kept : Function.update state.tasks id none row.taskID = state.tasks row.taskID :=
      Function.update_of_ne (of_decide_eq_true apart) _ _
    show (Function.update state.tasks id none row.taskID).isSome = true
    rw [kept]
    exact consistent.usage row member

theorem issueExists_iff {issueID : Option Nat} :
    issueExists state issueID = true ↔ (issueID.isSome = true → (issueID.bind state.issues).isSome = true) := by
  cases issueID with
  | none => simp [issueExists]
  | some issue => simp [issueExists]

theorem consistent_of_issue (consistent : Consistent state) {issue : Issue}
    (stays : ∀ old, state.issues id = some old → issue.workspaceID = old.workspaceID)
    (usage : next.usage = state.usage) (tasks : next.tasks = state.tasks)
    (issues : next.issues = Function.update state.issues id (some issue))
    (workspaces : next.agentWorkspace = state.agentWorkspace) : Consistent next := by
  refine ⟨fun row member => ?_, fun taskID task found => ?_, fun taskID task found => ?_⟩
  · rw [tasks]
    exact consistent.usage row (usage ▸ member)
  · have exist := consistent.issues taskID task (tasks ▸ found)
    rw [issueExists, issues]
    rw [issueExists] at exist
    cases about : task.issueID with
    | none => rfl
    | some other =>
        by_cases own : other = id
        · simp [own]
        · rw [about] at exist
          simpa [Function.update_of_ne own] using exist
  · have exist := consistent.issues taskID task (tasks ▸ found)
    have same := consistent.workspaces taskID task (tasks ▸ found)
    rw [sameWorkspace, issues, workspaces]
    rw [sameWorkspace] at same
    rw [issueExists] at exist
    cases about : task.issueID with
    | none => rfl
    | some other =>
        rw [about] at exist same
        by_cases own : other = id
        · obtain ⟨old, stored⟩ := Option.isSome_iff_exists.mp exist
          rw [own] at stored
          simpa [own, stored, stays old stored] using same
        · simpa [Function.update_of_ne own] using same

theorem createIssue_consistent (consistent : Consistent state) (issue : Issue) :
    Consistent (createIssue id issue state) := by
  rw [createIssue]
  split
  · rename_i fresh
    refine consistent_of_issue consistent (fun old stored => ?_) rfl rfl rfl rfl
    rw [stored] at fresh
    contradiction
  · exact consistent

theorem setProject_consistent (consistent : Consistent state) (projectID : Option Nat) :
    Consistent (setProject now id projectID state) := by
  rw [setProject]
  split
  · exact consistent
  · rename_i old stored
    have stays : ∀ other, state.issues id = some other →
        (⟨old.workspaceID, projectID⟩ : Issue).workspaceID = other.workspaceID := by
      intro other found
      rw [stored] at found
      rw [Option.some.inj found]
    by_cases changed : old.projectID ≠ projectID
    · simp only [if_pos changed]
      exact consistent_of_issue consistent stays rfl rfl rfl rfl
    · simp only [if_neg changed]
      exact consistent_of_issue consistent stays rfl rfl rfl rfl

theorem deleteIssue_consistent (consistent : Consistent state) : Consistent (deleteIssue now id state) := by
  rw [deleteIssue]
  split
  · exact consistent
  · have kept : ∀ taskID task, (state.tasks taskID).filter (fun task => task.issueID ≠ some id) = some task →
        state.tasks taskID = some task ∧ task.issueID ≠ some id := by
      intro taskID task found
      obtain ⟨stored, apart⟩ := Option.filter_eq_some_iff.mp found
      exact ⟨stored, of_decide_eq_true apart⟩
    refine ⟨fun row member => ?_, fun taskID task found => ?_, fun taskID task found => ?_⟩
    · obtain ⟨member, elsewhere⟩ := List.mem_filter.mp member
      have elsewhere : (!about state id row) = true := elsewhere
      obtain ⟨task, stored⟩ := Option.isSome_iff_exists.mp (consistent.usage row member)
      have apart : task.issueID ≠ some id := by
        intro own
        rw [about_iff.mpr ⟨task, stored, own⟩] at elsewhere
        contradiction
      show ((state.tasks row.taskID).filter fun task => task.issueID ≠ some id).isSome = true
      simp [stored, apart]
    · obtain ⟨stored, apart⟩ := kept taskID task found
      have exist := consistent.issues taskID task stored
      rw [issueExists_iff] at exist ⊢
      exact fun some => (congrArg Option.isSome (readable_ne apart)).trans (exist some)
    · obtain ⟨stored, apart⟩ := kept taskID task found
      have same := consistent.workspaces taskID task stored
      rw [sameWorkspace] at same ⊢
      exact (congrArg (Option.all _) (readable_ne apart)).trans same

end Consistency

/-- The hourly row of the key is the aggregate of its raw rows, and there is none without them; or
the key is in the queue, or one of its raw rows is at or after the watermark. -/
def Counted (state : State) (key : Key) : Prop :=
  Accounted UsageRow.event recomputed (source state) state.rollup key

section Windows

variable {state : State} {pFrom pTo now : Time} {key : Key} {row : UsageRow}

theorem within_event : row.within pFrom pTo = (decide (pFrom ≤ row.event) && decide (row.event < pTo)) := by
  rw [UsageRow.within, UsageRow.event]
  cases row.updatedAt with
  | none => rfl
  | some updatedAt => rfl

theorem dirtyKey_due : dirtyKey state pFrom pTo key = due UsageRow.event (source state) pFrom pTo state.rollup key := by
  have updates : decide (key ∈ dirtyFromUpdates state pFrom pTo) =
      ((source state).matching key).any fun row => pFrom ≤ row.event && row.event < pTo := by
    rw [Bool.eq_iff_iff, decide_eq_true_eq, dirtyFromUpdates, List.mem_filterMap, List.any_eq_true]
    constructor
    · rintro ⟨row, member, keyed⟩
      obtain ⟨member, inside⟩ := List.mem_filter.mp member
      exact ⟨row, mem_matching.mpr ⟨member, keyed⟩, within_event ▸ inside⟩
    · rintro ⟨row, member, inside⟩
      obtain ⟨member, keyed⟩ := mem_matching.mp member
      exact ⟨row, List.mem_filter.mpr ⟨member, within_event ▸ inside⟩, keyed⟩
  rw [dirtyKey, due, updates]
  rfl

theorem window_rollup : (rollupTaskUsageHourlyWindow pFrom pTo state).rollup =
    window UsageRow.event recomputed (source state) pFrom pTo state.rollup := by
  rw [rollupTaskUsageHourlyWindow, window]
  split
  · rfl
  · simp only [dirtyKey_due]
    rfl

theorem window_source : source (rollupTaskUsageHourlyWindow pFrom pTo state) = source state := by
  rw [rollupTaskUsageHourlyWindow]
  split
  · rfl
  · rfl

theorem source_setWatermark (watermarkAt : Time) : source (setWatermark watermarkAt state) = source state := rfl

theorem advance_counted (vTo : Time) (counted : Counted state key) :
    Counted (setWatermark vTo (rollupTaskUsageHourlyWindow state.rollup.watermark vTo state)) key := by
  rw [Counted, source_setWatermark, window_source, setWatermark, window_rollup]
  exact window_advance counted

theorem rollupTick_counted (counted : Counted state key) : Counted (rollupTick now state) key := by
  by_cases forward : state.rollup.watermark < tickEnd now state.rollup.watermark
  · rw [rollupTick, if_pos forward]
    exact advance_counted _ counted
  · rw [rollupTick, if_neg forward]
    exact counted

theorem prune_kept (kept : ∀ key enqueuedAt, state.rollup.queued key = some enqueuedAt →
    now ≤ enqueuedAt + days 7) : pruneTaskUsageHourlyDirty now state = state := by
  have young : ∀ key enqueuedAt, state.rollup.queued key = some enqueuedAt → now - days 7 ≤ enqueuedAt :=
    fun key enqueuedAt queued => Nat.sub_le_of_le_add (kept key enqueuedAt queued)
  rw [pruneTaskUsageHourlyDirty, prune_same young]

theorem tick_counted {lockOk : Bool} (kept : lockOk = true → ∀ key enqueuedAt,
      (rollupTick now state).rollup.queued key = some enqueuedAt → now ≤ enqueuedAt + days 7)
    (counted : Counted state key) : Counted (rollupTaskUsageHourly now lockOk state) key := by
  cases lockOk with
  | false => exact counted
  | true =>
      rw [rollupTaskUsageHourly, if_pos rfl, prune_kept (kept rfl)]
      exact rollupTick_counted counted

theorem walk_source (slices : List (Time × Time)) : source (walk slices state) = source state := by
  induction slices generalizing state with
  | nil => rfl
  | cons slice rest ih => exact ih.trans window_source

theorem walk_watermark (slices : List (Time × Time)) :
    (walk slices state).rollup.watermark = state.rollup.watermark := by
  induction slices generalizing state with
  | nil => rfl
  | cons slice rest ih =>
      refine Eq.trans ih ?_
      rw [window_rollup, window_watermark]

theorem walk_counted (slices : List (Time × Time)) (counted : Counted state key) :
    Counted (walk slices state) key := by
  induction slices generalizing state with
  | nil => exact counted
  | cons slice rest ih =>
      refine ih ?_
      rw [Counted, window_source, window_rollup]
      exact window_accounted counted

theorem walk_settled (slices : List (Time × Time))
    (settled : Settled recomputed (source state) state.rollup key) :
    Settled recomputed (source (walk slices state)) (walk slices state).rollup key := by
  induction slices generalizing state with
  | nil => exact settled
  | cons slice rest ih =>
      refine ih ?_
      rw [window_source, window_rollup]
      exact window_settled settled

theorem walk_covers {slices : List (Time × Time)} {slice : Time × Time} (listed : slice ∈ slices)
    (member : row ∈ (source state).matching key) (lower : slice.1 ≤ row.event) (upper : row.event < slice.2) :
    Settled recomputed (source (walk slices state)) (walk slices state).rollup key := by
  induction slices generalizing state with
  | nil => contradiction
  | cons head rest ih =>
      rcases List.mem_cons.mp listed with rfl | later
      · refine walk_settled rest ?_
        rw [window_source, window_rollup]
        exact window_covers member lower upper
      · refine ih later ?_
        rw [window_source]
        exact member

theorem monthTime_le {month ts : Nat} : monthTime month ≤ ts ↔ monthStart month ≤ ts / days 1 := by
  have day : days (monthStart month) = monthStart month * days 1 := by
    rw [days, days, Nat.one_mul]
  have positive : 0 < days 1 := by decide +kernel
  rw [monthTime, day, Nat.le_div_iff_mul_le positive]

theorem slices_cover {range : UsageRange} {ts : Time} (first : monthTime (month range.minEvent) ≤ ts)
    (last : ts ≤ range.maxEvent) : ∃ slice ∈ slices range, slice.1 ≤ ts ∧ ts < slice.2 := by
  have begun : month range.minEvent ≤ month ts := le_monthOf (monthTime_le.mp first)
  have inside : monthTime (month ts) ≤ ts := monthTime_le.mpr (monthStart_monthOf _)
  have ended : month ts ≤ month range.maxEvent := by
    refine le_monthOf (Nat.le_trans (monthStart_monthOf _) ?_)
    exact Nat.div_le_div_right last
  have listed : month ts ∈ List.range' (month range.minEvent)
      (month range.maxEvent + 1 - month range.minEvent) := by
    rw [List.mem_range'_1]
    omega
  refine ⟨_, List.mem_map_of_mem listed, inside, ?_⟩
  refine Nat.lt_of_not_le fun later => ?_
  exact absurd (lt_monthStart_succ (ts / days 1)) (Nat.not_lt.mpr (monthTime_le.mp later))

theorem range_of_rows {range : UsageRange} (loaded : loadUsageRange state = some range)
    (member : row ∈ state.usage.rows) : row.event ≤ range.maxEvent := by
  rw [loadUsageRange] at loaded
  split at loaded
  · rename_i minEvent maxEvent _ greatest
    cases loaded
    exact (List.max?_eq_some_iff.mp greatest).2 row.event (List.mem_map_of_mem member)
  · contradiction

theorem hook_cases (now lagThreshold : Time) (cancelledAfter : Option Nat) (state : State) :
    walkedFrom lagThreshold state = none ∧ hook now lagThreshold cancelledAfter state = stampWatermark now state ∨
      ∃ range, loadUsageRange state = some range ∧
        walkedFrom lagThreshold state = some (monthTime (month range.minEvent)) ∧
        hook now lagThreshold cancelledAfter state =
          match cancelledAfter with
          | some count => walk ((slices range).take count) state
          | none => stampWatermark now (walk (slices range) state) := by
  rw [walkedFrom, hook]
  cases loaded : loadUsageRange state with
  | none => exact Or.inl ⟨rfl, rfl⟩
  | some range =>
      by_cases current : range.maxEvent ≤ state.rollup.watermark +
          (if lagThreshold = 0 then maxLagThreshold else lagThreshold)
      · exact Or.inl ⟨if_pos current, if_pos current⟩
      · exact Or.inr ⟨range, rfl, if_neg current, if_neg current⟩

theorem stamp_counted (counted : Counted state key)
    (passed : ∀ row ∈ (source state).matching key, state.rollup.watermark ≤ row.event →
      row.event < now - minutes 5 → Settled recomputed (source state) state.rollup key) :
    Counted (stampWatermark now state) key := by
  rw [stampWatermark, Counted, source_setWatermark, setWatermark]
  exact counted.moved passed

theorem hook_counted {lagThreshold : Time} {cancelledAfter : Option Nat}
    (covered : Covered state ⟨now, .hook lagThreshold cancelledAfter⟩) (counted : Counted state key) :
    Counted (hook now lagThreshold cancelledAfter state) key := by
  have walked : ∀ row ∈ (source state).matching key, state.rollup.watermark ≤ row.event →
      row.event < now - minutes 5 → (walkedFrom lagThreshold state = none ∨ cancelledAfter = none) →
      (walkedFrom lagThreshold state).any (fun first => first ≤ row.event) = true := by
    intro row member recent old stamps
    obtain ⟨listed, keyed⟩ := mem_matching.mp member
    have known : (rowKey state row).isSome = true := Option.isSome_iff_exists.mpr ⟨key, keyed⟩
    exact (covered stamps row listed known recent).resolve_left (Nat.not_le_of_gt old)
  rcases hook_cases now lagThreshold cancelledAfter state with ⟨stays, result⟩ | ⟨range, loaded, begins, result⟩
  · rw [result]
    refine stamp_counted counted fun row member recent old => ?_
    have inside := walked row member recent old (Or.inl stays)
    rw [stays] at inside
    contradiction
  · rw [result]
    cases cancelledAfter with
    | some count => exact walk_counted _ counted
    | none =>
        refine stamp_counted (walk_counted _ counted) fun row member recent old => ?_
        rw [walk_source] at member
        rw [walk_watermark] at recent
        have inside := walked row member recent old (Or.inr rfl)
        rw [begins, Option.any_some, decide_eq_true_eq] at inside
        obtain ⟨slice, listed, lower, upper⟩ := slices_cover inside
          (range_of_rows loaded (mem_matching.mp member).1)
        exact walk_covers listed member lower upper

end Windows

section Runs

variable {state : State} {event : Event}

structure Invariant (state : State) : Prop where
  consistent : Consistent state
  watermark : state.rollup.watermark ≤ state.clock - minutes 5
  counted : ∀ key, Counted state key

theorem apply_consistent {now : Time} {write : Write} (consistent : Consistent state)
    (admissible : Admissible state write) : Consistent (apply now write state) := by
  cases write with
  | upsertUsage report => exact upsertTaskUsage_consistent consistent report
  | deleteUsage key => exact deleteTaskUsage_consistent consistent key
  | createTask id task => exact createTask_consistent consistent admissible
  | updateTask id runtimeID issueID => exact updateTask_consistent consistent admissible
  | deleteTask id => exact deleteTask_consistent consistent
  | createIssue id issue => exact createIssue_consistent consistent issue
  | deleteIssue id => exact deleteIssue_consistent consistent
  | setProject id projectID => exact setProject_consistent consistent projectID

theorem apply_keeps {now : Time} {write : Write} (consistent : Consistent state)
    (recent : state.rollup.watermark ≤ now) : Keeps state (apply now write state) := by
  cases write with
  | upsertUsage report => exact upsertTaskUsage_keeps report recent
  | deleteUsage key => exact deleteTaskUsage_keeps key
  | createTask id task => exact createTask_keeps consistent task
  | updateTask id runtimeID issueID => exact updateTask_keeps runtimeID issueID
  | deleteTask id => exact deleteTask_keeps
  | createIssue id issue => exact createIssue_keeps consistent issue
  | deleteIssue id => exact deleteIssue_keeps consistent
  | setProject id projectID => exact setProject_keeps consistent projectID

theorem window_consistent (pFrom pTo : Time) (consistent : Consistent state) :
    Consistent (rollupTaskUsageHourlyWindow pFrom pTo state) := by
  rw [rollupTaskUsageHourlyWindow]
  split
  · exact consistent
  · exact ⟨consistent.usage, consistent.issues, consistent.workspaces⟩

theorem setWatermark_consistent (watermarkAt : Time) (consistent : Consistent state) :
    Consistent (setWatermark watermarkAt state) :=
  ⟨consistent.usage, consistent.issues, consistent.workspaces⟩

theorem prune_consistent (now : Time) (consistent : Consistent state) :
    Consistent (pruneTaskUsageHourlyDirty now state) :=
  ⟨consistent.usage, consistent.issues, consistent.workspaces⟩

theorem watermark_prune (now : Time) :
    (pruneTaskUsageHourlyDirty now state).rollup.watermark = state.rollup.watermark := rfl

theorem tick_consistent (now : Time) (lockOk : Bool) (consistent : Consistent state) :
    Consistent (rollupTaskUsageHourly now lockOk state) := by
  cases lockOk with
  | false => exact consistent
  | true =>
      rw [rollupTaskUsageHourly, if_pos rfl]
      refine prune_consistent now ?_
      rw [rollupTick]
      split
      · exact setWatermark_consistent _ (window_consistent _ _ consistent)
      · exact consistent

theorem walk_consistent (slices : List (Time × Time)) (consistent : Consistent state) :
    Consistent (walk slices state) := by
  induction slices generalizing state with
  | nil => exact consistent
  | cons slice rest ih => exact ih (window_consistent _ _ consistent)

theorem hook_consistent {now lagThreshold : Time} {cancelledAfter : Option Nat} (consistent : Consistent state) :
    Consistent (hook now lagThreshold cancelledAfter state) := by
  rcases hook_cases now lagThreshold cancelledAfter state with ⟨-, result⟩ | ⟨range, -, -, result⟩
  · rw [result]
    exact setWatermark_consistent _ consistent
  · rw [result]
    cases cancelledAfter with
    | some count => exact walk_consistent _ consistent
    | none => exact setWatermark_consistent _ (walk_consistent _ consistent)

theorem watermark_setWatermark (watermarkAt : Time) :
    (setWatermark watermarkAt state).rollup.watermark = watermarkAt := rfl

theorem tick_watermark {now : Time} {lockOk : Bool} (behind : state.rollup.watermark ≤ now - minutes 5) :
    (rollupTaskUsageHourly now lockOk state).rollup.watermark ≤ now - minutes 5 := by
  cases lockOk with
  | false => exact behind
  | true =>
      rw [rollupTaskUsageHourly, if_pos rfl, watermark_prune, rollupTick]
      split
      · rw [watermark_setWatermark, tickEnd]
        exact Nat.min_le_left _ _
      · exact behind

theorem hook_watermark {now lagThreshold : Time} {cancelledAfter : Option Nat}
    (behind : state.rollup.watermark ≤ now - minutes 5) :
    (hook now lagThreshold cancelledAfter state).rollup.watermark ≤ now - minutes 5 := by
  rcases hook_cases now lagThreshold cancelledAfter state with ⟨-, result⟩ | ⟨range, -, -, result⟩
  · rw [result, stampWatermark, watermark_setWatermark]
  · rw [result]
    cases cancelledAfter with
    | some count =>
        exact Nat.le_trans (Nat.le_of_eq (walk_watermark _)) behind
    | none => exact Nat.le_of_eq (watermark_setWatermark _)

theorem clock_invariant {now : Time} (consistent : Consistent state)
    (watermark : state.rollup.watermark ≤ now - minutes 5) (counted : ∀ key, Counted state key) :
    Invariant { state with clock := now } :=
  ⟨⟨consistent.usage, consistent.issues, consistent.workspaces⟩, watermark, counted⟩

theorem step_invariant (invariant : Invariant state) (allowed : Allowed state event)
    (covered : Covered state event) : Invariant (step state event) := by
  obtain ⟨now, action⟩ := event
  have behind : state.rollup.watermark ≤ now - minutes 5 :=
    Nat.le_trans invariant.watermark (Nat.sub_le_sub_right allowed.1 _)
  cases action with
  | write transactionTime write =>
      obtain ⟨-, -, recent, admissible⟩ := allowed
      have kept : Keeps state (apply transactionTime write state) :=
        apply_keeps invariant.consistent (Nat.le_trans behind (Nat.sub_le_of_le_add recent))
      refine clock_invariant (apply_consistent invariant.consistent admissible) ?_ fun key =>
        kept.accounted (invariant.counted key)
      show (apply transactionTime write state).rollup.watermark ≤ now - minutes 5
      rw [kept.watermark]
      exact behind
  | tick lockOk =>
      exact clock_invariant (tick_consistent now lockOk invariant.consistent) (tick_watermark behind) fun key =>
        tick_counted allowed.2 (invariant.counted key)
  | hook lagThreshold cancelledAfter =>
      exact clock_invariant (hook_consistent invariant.consistent) (hook_watermark behind) fun key =>
        hook_counted covered (invariant.counted key)

theorem migrated_invariant (migrated : Migrated state) : Invariant state := by
  refine ⟨migrated.consistent, ?_, fun key => ?_⟩
  · rw [migrated.watermark]
    exact Nat.zero_le _
  · cases matching : (source state).matching key with
    | nil =>
        left
        rw [Settled, migrated.hourly, matching]
        rfl
    | cons row rest =>
        refine Or.inr (Or.inr ⟨row, by simp [matching], ?_⟩)
        rw [migrated.watermark]
        exact Nat.zero_le _

/-- Every key is the aggregate of its raw rows or pending in every state of a run, if no backfill
stamps the watermark past usage that it has not walked over. -/
theorem usage_counted_or_pending (start : State) (migrated : Migrated start) (events : List Event)
    (allowed : Every step Allowed start events) (covered : Every step Covered start events) :
    Always step (fun state => ∀ key, Counted state key) start events := by
  have always := always_of_invariant (migrated_invariant migrated)
    (fun state event invariant conditions => step_invariant invariant conditions.1 conditions.2)
    (allowed.and covered)
  exact always.mono fun state invariant => invariant.counted

def emptyState : State :=
  ⟨0, fun _ => 1, fun _ => none, fun _ => none, .empty, ⟨fun _ => none, fun _ => none, 0⟩⟩

theorem emptyState_migrated : Migrated emptyState :=
  ⟨⟨nofun, nofun, nofun⟩, fun _ => rfl, fun _ => rfl, rfl⟩

def report : UsageReport := ⟨1, "anthropic", "opus", 10, 5, 0, 0, none⟩

def firstUsage : List Event :=
  [⟨days 20000, .hook 0 none⟩, ⟨days 20000, .write (days 20000) (.createTask 1 ⟨some 1, 1, none⟩)⟩,
    ⟨days 20000 + minutes 1, .write (days 20000 + minutes 1) (.upsertUsage report)⟩]

def secondBackfill : Event := ⟨days 20000 + minutes 30, .hook 0 none⟩

theorem firstUsage_allowed : Every step Allowed emptyState (firstUsage ++ [secondBackfill]) := by
  refine ⟨⟨?_, trivial⟩, ⟨?_, ?_, ?_, rfl⟩, ⟨?_, ?_, ?_, trivial⟩, ⟨?_, trivial⟩, trivial⟩
  all_goals decide +kernel

theorem firstUsage_covered : Every step Covered emptyState firstUsage :=
  ⟨fun _ _ member => absurd member List.not_mem_nil, trivial, trivial, trivial⟩

theorem usage_counted_or_pending_firstUsage :
    Always step (fun state => ∀ key, Counted state key) emptyState firstUsage :=
  usage_counted_or_pending emptyState emptyState_migrated firstUsage
    (every_append.mp firstUsage_allowed).1 firstUsage_covered

def firstKey : Key := ⟨days 20000, 1, 1, 1, none, "anthropic", "opus"⟩

theorem usage_stamped_over :
    Migrated emptyState ∧ Every step Allowed emptyState (firstUsage ++ [secondBackfill]) ∧
      ¬Always step (fun state => ∀ key, Counted state key) emptyState (firstUsage ++ [secondBackfill]) := by
  refine ⟨emptyState_migrated, firstUsage_allowed, fun always => ?_⟩
  have counted := always.last firstKey
  rcases counted with settled | queued | ⟨row, member, recent⟩
  · have missing : (run step emptyState (firstUsage ++ [secondBackfill])).rollup.derived firstKey ≠
        recomputed ((source (run step emptyState (firstUsage ++ [secondBackfill]))).matching firstKey) := by
      decide +kernel
    exact missing settled
  · have unqueued : ((run step emptyState (firstUsage ++ [secondBackfill])).rollup.queued firstKey).isSome =
        false := by
      decide +kernel
    rw [unqueued] at queued
    contradiction
  · have passed : ∀ row ∈ (source (run step emptyState (firstUsage ++ [secondBackfill]))).matching firstKey,
        row.event < (run step emptyState (firstUsage ++ [secondBackfill])).rollup.watermark := by
      decide +kernel
    exact absurd recent (Nat.not_le_of_gt (passed row member))

end Runs

end MulticaOS.Usage
