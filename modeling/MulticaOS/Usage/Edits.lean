import MulticaOS.Usage.Backfill

/-!
What the writers do to the rollup: a key whose rows change is queued by a trigger, or has a row
that the watermark has not passed.
-/

namespace MulticaOS.Usage

open RollupLib
open UpsertLib

def Keeps (state next : State) : Prop :=
  Edit UsageRow.event (source state) (source next) state.rollup next.rollup

section Edits

variable {state next : State} {now : Time} {id : Nat}

theorem Keeps.refl (state : State) : Keeps state state :=
  ⟨rfl, rfl, fun _ queued => queued, fun _ => Or.inl rfl⟩

theorem queued_enqueueDirty {keys : List Key} {key : Key} :
    ((enqueueDirty now keys state).rollup.queued key).isSome = true ↔
      key ∈ keys ∨ (state.rollup.queued key).isSome = true := enqueue_queued

theorem keeps_of_rekeyed (keep : UsageRow → Bool) (rows : next.usage.rows = state.usage.rows.filter keep)
    (derived : next.rollup.derived = state.rollup.derived)
    (watermark : next.rollup.watermark = state.rollup.watermark)
    (queued : ∀ key, (state.rollup.queued key).isSome = true → (next.rollup.queued key).isSome = true)
    (moved : ∀ row ∈ state.usage.rows, keep row = true ∧ rowKey next row = rowKey state row ∨
      (∀ key, rowKey state row = some key → (next.rollup.queued key).isSome = true) ∧
        (keep row = true → ∀ key, rowKey next row = some key → (next.rollup.queued key).isSome = true)) :
    Keeps state next := by
  refine ⟨derived, watermark, queued, fun key => ?_⟩
  by_cases dirty : (next.rollup.queued key).isSome = true
  · exact Or.inr (Or.inl dirty)
  · left
    have before : (source next).rows = (source state).rows.filter keep := rows
    refine matching_rekeyed keep before fun row member => ?_
    rcases moved row member with same | ⟨old, new⟩
    · exact Or.inl same
    · exact Or.inr ⟨fun keyed => dirty (old key keyed), fun kept keyed => dirty (new kept key keyed)⟩

theorem filter_all (rows : List UsageRow) : rows = rows.filter fun _ => true :=
  (List.filter_eq_self.mpr fun _ _ => rfl).symm

theorem upsertTaskUsage_keeps (report : UsageReport) (recent : state.rollup.watermark ≤ now) :
    Keeps state (upsertTaskUsage now report state) := by
  rw [upsertTaskUsage]
  split
  · exact Keeps.refl state
  · refine ⟨rfl, rfl, fun _ queued => queued, fun key => ?_⟩
    have stored : ((state.usage.lookup (report.row now).key).map (report.overwrite now)).getD (report.row now) ∈
        (state.usage.upsert (report.row now) (report.overwrite now) (overwrite_key report now)).rows :=
      Table.mem_of_lookup (Table.lookup_upsert_self (overwrite_key report now))
    cases found : state.usage.lookup (report.row now).key with
    | none =>
        rw [found] at stored
        by_cases keyed : rowKey state (report.row now) = some key
        · exact Or.inr (Or.inr ⟨report.row now, mem_matching.mpr ⟨stored, keyed⟩, recent⟩)
        · refine Or.inl (Table.filter_upsertRows (fun _ => decide_eq_false keyed) fun old member same => ?_)
          rw [← same, Table.mem_rows.mp member] at found
          contradiction
    | some old =>
        rw [found] at stored
        by_cases keyed : rowKey state old = some key
        · exact Or.inr (Or.inr ⟨report.overwrite now old, mem_matching.mpr ⟨stored, keyed⟩, recent⟩)
        · refine Or.inl (Table.filter_upsertRows (fun absent => ?_) fun other member same => ?_)
          · exact absurd (Table.lookup_key found) (absent old (Table.mem_of_lookup found))
          · rw [← same, Table.mem_rows.mp member] at found
            cases found
            exact ⟨decide_eq_false keyed, decide_eq_false keyed⟩

theorem deleteTaskUsage_keeps (key : Nat × String × String) : Keeps state (deleteTaskUsage now key state) := by
  rw [deleteTaskUsage]
  split
  · exact Keeps.refl state
  · rename_i row found
    refine keeps_of_rekeyed (fun other => other.key ≠ key) rfl rfl rfl
      (fun key queued => queued_enqueueDirty.mpr (Or.inr queued)) fun other member => ?_
    by_cases same : other.key = key
    · right
      rw [← same, Table.mem_rows.mp member] at found
      cases found
      constructor
      · intro key keyed
        refine queued_enqueueDirty.mpr (Or.inl ?_)
        rw [keyed]
        exact List.mem_singleton_self key
      · intro kept
        simp [same] at kept
    · exact Or.inl ⟨by simpa using same, rfl⟩

theorem rowKey_of_task {row : UsageRow} {task : Task} (stored : state.tasks row.taskID = some task) :
    rowKey state row = taskKey state task row := by
  rw [rowKey, stored, Option.bind_some]

theorem rowKey_congr {row : UsageRow} (tasks : next.tasks row.taskID = state.tasks row.taskID)
    (keys : ∀ task, state.tasks row.taskID = some task → taskKey next task row = taskKey state task row) :
    rowKey next row = rowKey state row := by
  rw [rowKey, rowKey, tasks]
  cases stored : state.tasks row.taskID with
  | none => rfl
  | some task => exact keys task stored

theorem mem_taskKeys {task : Task} {row : UsageRow} {key : Key} (member : row ∈ state.usage.rows)
    (own : row.taskID = id) (keyed : taskKey state task row = some key) : key ∈ taskKeys state id task :=
  List.mem_filterMap.mpr ⟨row, List.mem_filter.mpr ⟨member, by simpa using own⟩, keyed⟩

theorem createTask_keeps (consistent : Consistent state) (task : Task) :
    Keeps state (createTask id task state) := by
  rw [createTask]
  split
  · rename_i fresh
    obtain ⟨fresh, -⟩ := Bool.and_eq_true_iff.mp fresh
    refine keeps_of_rekeyed (fun _ => true) (filter_all _) rfl rfl (fun _ queued => queued) fun row member => ?_
    left
    have apart : row.taskID ≠ id := by
      rintro rfl
      have known := consistent.usage row member
      rw [Option.isNone_iff_eq_none.mp fresh] at known
      contradiction
    exact ⟨rfl, rowKey_congr (Function.update_of_ne apart _ _) fun _ _ => rfl⟩
  · exact Keeps.refl state

theorem keeps_of_task {old new : Task} (stored : state.tasks id = some old)
    (queued : new = old ∨ ∀ key, key ∈ taskKeys state id old ∨ key ∈ taskKeys state id new →
      (next.rollup.queued key).isSome = true)
    (kept : ∀ key, (state.rollup.queued key).isSome = true → (next.rollup.queued key).isSome = true)
    (derived : next.rollup.derived = state.rollup.derived)
    (watermark : next.rollup.watermark = state.rollup.watermark) (usage : next.usage = state.usage)
    (tasks : next.tasks = Function.update state.tasks id (some new))
    (keys : ∀ task row, taskKey next task row = taskKey state task row) : Keeps state next := by
  refine keeps_of_rekeyed (fun _ => true) (usage ▸ filter_all _) derived watermark kept fun row member => ?_
  by_cases own : row.taskID = id
  · have before : rowKey state row = taskKey state old row := rowKey_of_task (by rw [own, stored])
    have after : rowKey next row = taskKey state new row := by
      rw [← keys]
      exact rowKey_of_task (by rw [tasks, own, Function.update_self])
    rcases queued with same | queued
    · rw [before, after, same]
      exact Or.inl ⟨rfl, rfl⟩
    · rw [before, after]
      exact Or.inr ⟨fun key keyed => queued key (Or.inl (mem_taskKeys member own keyed)),
        fun _ key keyed => queued key (Or.inr (mem_taskKeys member own keyed))⟩
  · refine Or.inl ⟨rfl, rowKey_congr ?_ fun task _ => keys task row⟩
    rw [tasks, Function.update_of_ne own]

theorem updateTask_keeps (runtimeID issueID : Option Nat) :
    Keeps state (updateTask now id runtimeID issueID state) := by
  rw [updateTask]
  split
  · exact Keeps.refl state
  · rename_i old stored
    by_cases known : issueExists state issueID = true
    · simp only [known, if_true]
      by_cases changed : old.runtimeID ≠ runtimeID ∨ old.issueID ≠ issueID
      · rw [if_pos changed]
        refine keeps_of_task stored (Or.inr fun key listed => ?_) (fun key queued => ?_) rfl rfl rfl rfl
          fun _ _ => rfl
        · refine queued_enqueueDirty.mpr ?_
          rcases listed with before | after
          · exact Or.inr (queued_enqueueDirty.mpr (Or.inl before))
          · exact Or.inl after
        · exact queued_enqueueDirty.mpr (Or.inr (queued_enqueueDirty.mpr (Or.inr queued)))
      · rw [if_neg changed]
        simp only [not_or, not_not] at changed
        refine keeps_of_task stored (Or.inl ?_) (fun key queued => queued) rfl rfl rfl rfl fun _ _ => rfl
        rw [← changed.1, ← changed.2]
    · simp only [known]
      exact Keeps.refl state

theorem deleteTask_keeps : Keeps state (deleteTask now id state) := by
  rw [deleteTask]
  split
  · exact Keeps.refl state
  · rename_i old stored
    refine keeps_of_rekeyed (fun row => row.taskID ≠ id) rfl rfl rfl
      (fun key queued => queued_enqueueDirty.mpr (Or.inr queued)) fun row member => ?_
    by_cases own : row.taskID = id
    · refine Or.inr ⟨fun key keyed => queued_enqueueDirty.mpr (Or.inl ?_), fun kept => ?_⟩
      · rw [rowKey_of_task (by rw [own, stored])] at keyed
        exact mem_taskKeys member own keyed
      · simp [own] at kept
    · exact Or.inl ⟨by simpa using own, rowKey_congr (Function.update_of_ne own _ _) fun _ _ => rfl⟩

theorem readable_ne {issue : Option Issue} {issueID : Option Nat} (apart : issueID ≠ some id) :
    issueID.bind (Function.update state.issues id issue) = issueID.bind state.issues := by
  cases issueID with
  | none => rfl
  | some other => exact Function.update_of_ne (fun same => apart (congrArg some same)) _ _

theorem projectOf_ne {issue : Option Issue} {issueID : Option Nat} (apart : issueID ≠ some id) :
    projectOf (Function.update state.issues id issue) issueID = projectOf state.issues issueID := by
  rw [projectOf, readable_ne apart, projectOf]

theorem createIssue_keeps (consistent : Consistent state) (issue : Issue) :
    Keeps state (createIssue id issue state) := by
  rw [createIssue]
  split
  · rename_i fresh
    refine keeps_of_rekeyed (fun _ => true) (filter_all _) rfl rfl (fun _ queued => queued) fun row member => ?_
    refine Or.inl ⟨rfl, rowKey_congr rfl fun task stored => ?_⟩
    have apart : task.issueID ≠ some id := by
      intro about
      have known := consistent.issues row.taskID task stored
      rw [issueExists, about, Option.all_some, Option.isNone_iff_eq_none.mp fresh] at known
      contradiction
    rw [taskKey, taskKey]
    simp only [projectOf_ne apart]
  · exact Keeps.refl state

theorem about_iff {row : UsageRow} :
    about state id row = true ↔ ∃ task, state.tasks row.taskID = some task ∧ task.issueID = some id := by
  rw [about, Option.any_eq_true]
  simp only [decide_eq_true_eq]

theorem taskKey_about {task : Task} {issue : Issue} {row : UsageRow} (readable : state.issues id = some issue)
    (about : task.issueID = some id) : taskKey state task row = task.runtimeID.map fun runtimeID =>
      usageKey (state.agentWorkspace task.agentID) runtimeID task.agentID issue.projectID row := by
  have project : projectOf state.issues task.issueID = issue.projectID := by
    rw [projectOf, about, Option.bind_some, readable, Option.bind_some]
  rw [taskKey, project]

theorem workspace_about (consistent : Consistent state) {task : Task} {issue : Issue} {taskID : Nat}
    (stored : state.tasks taskID = some task) (own : task.issueID = some id)
    (readable : state.issues id = some issue) : issue.workspaceID = state.agentWorkspace task.agentID := by
  have same := consistent.workspaces taskID task stored
  rw [sameWorkspace, own, Option.bind_some, readable, Option.all_some, decide_eq_true_eq] at same
  exact same

theorem mem_issueKeys (consistent : Consistent state) {old issue : Issue} (readable : state.issues id = some old)
    {row : UsageRow} {key : Key} (member : row ∈ state.usage.rows) (own : about state id row = true)
    (keyed : rowKey next row = some key) (tasks : next.tasks = state.tasks)
    (workspaces : next.agentWorkspace = state.agentWorkspace) (issues : next.issues id = some issue) :
    key ∈ issueKeys state id old.workspaceID issue.projectID := by
  obtain ⟨task, stored, about⟩ := about_iff.mp own
  refine List.mem_filterMap.mpr ⟨row, List.mem_filter.mpr ⟨member, own⟩, ?_⟩
  rw [rowKey, tasks, stored, Option.bind_some, taskKey_about issues about, workspaces,
    ← workspace_about consistent stored about readable] at keyed
  rw [stored, Option.bind_some]
  exact keyed

theorem rowKey_elsewhere {issue : Option Issue} {row : UsageRow} (elsewhere : about state id row = false)
    (tasks : next.tasks row.taskID = state.tasks row.taskID)
    (workspaces : next.agentWorkspace = state.agentWorkspace)
    (issues : next.issues = Function.update state.issues id issue) : rowKey next row = rowKey state row := by
  refine rowKey_congr tasks fun task stored => ?_
  have apart : task.issueID ≠ some id := by
    intro own
    rw [about_iff.mpr ⟨task, stored, own⟩] at elsewhere
    contradiction
  simp only [taskKey, workspaces, issues, projectOf_ne apart]

theorem deleteIssue_keeps (consistent : Consistent state) : Keeps state (deleteIssue now id state) := by
  rw [deleteIssue]
  split
  · exact Keeps.refl state
  · rename_i old readable
    refine keeps_of_rekeyed (fun row => !about state id row) rfl rfl rfl
      (fun key queued => queued_enqueueDirty.mpr (Or.inr (queued_enqueueDirty.mpr (Or.inr queued))))
      fun row member => ?_
    cases own : about state id row with
    | true =>
        refine Or.inr ⟨fun key keyed => ?_, fun kept => by simp at kept⟩
        refine queued_enqueueDirty.mpr (Or.inr (queued_enqueueDirty.mpr (Or.inl ?_)))
        exact mem_issueKeys consistent readable member own keyed rfl rfl readable
    | false =>
        refine Or.inl ⟨rfl, rowKey_elsewhere own ?_ rfl rfl⟩
        show (state.tasks row.taskID).filter (fun task => task.issueID ≠ some id) = state.tasks row.taskID
        cases stored : state.tasks row.taskID with
        | none => rfl
        | some task =>
            have apart : task.issueID ≠ some id := by
              intro about'
              rw [about_iff.mpr ⟨task, stored, about'⟩] at own
              contradiction
            exact Option.filter_some_pos (decide_eq_true apart)

theorem setProject_keeps (consistent : Consistent state) (projectID : Option Nat) :
    Keeps state (setProject now id projectID state) := by
  rw [setProject]
  split
  · exact Keeps.refl state
  · rename_i old readable
    by_cases changed : old.projectID ≠ projectID
    · simp only [if_pos changed]
      refine keeps_of_rekeyed (fun _ => true) (filter_all _) rfl rfl
        (fun key queued => queued_enqueueDirty.mpr (Or.inr (queued_enqueueDirty.mpr (Or.inr queued))))
        fun row member => ?_
      cases own : about state id row with
      | true =>
          refine Or.inr ⟨fun key keyed => ?_, fun _ key keyed => ?_⟩
          · refine queued_enqueueDirty.mpr (Or.inr (queued_enqueueDirty.mpr (Or.inl ?_)))
            exact mem_issueKeys consistent readable member own keyed rfl rfl readable
          · refine queued_enqueueDirty.mpr (Or.inl ?_)
            exact mem_issueKeys consistent readable member own keyed rfl rfl (Function.update_self id _ _)
      | false => exact Or.inl ⟨rfl, rowKey_elsewhere own rfl rfl rfl⟩
    · have same : Function.update state.issues id (some ⟨old.workspaceID, projectID⟩) = state.issues := by
        have unchanged : (⟨old.workspaceID, projectID⟩ : Issue) = old := by
          rw [← not_not.mp changed]
        rw [unchanged, ← readable]
        exact Function.update_eq_self id state.issues
      simp only [if_neg changed, same]
      exact Keeps.refl state

end Edits

end MulticaOS.Usage
