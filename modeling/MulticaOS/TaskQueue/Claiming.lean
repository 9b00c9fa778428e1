import MulticaOS.TaskQueue.Steps

/-!
Claims of one agent are serialized: at most one active task for an issue, for a chat
session and for quick creation, and never more active tasks than the agent's limit.
-/

namespace MulticaOS.TaskQueue

def quickCreateShaped (task : Task) : Bool :=
  task.issueId.isNone && task.chatSessionId.isNone && task.autopilotRunId.isNone

def activeOf (agent : Id) (task : Task) : Bool := task.agentId = agent && task.status.active

structure OneActive (db : Db) : Prop where
  issue : ∀ agent issue,
    db.tasks.countP (fun task => activeOf agent task && task.issueId = some issue) ≤ 1
  chatSession : ∀ agent session,
    db.tasks.countP (fun task => activeOf agent task && task.chatSessionId = some session) ≤ 1
  quickCreate : ∀ agent,
    db.tasks.countP (fun task => activeOf agent task && quickCreateShaped task) ≤ 1

structure Serialized (db : Db) : Prop extends WellFormed db where
  apart : ∀ left ∈ db.tasks, ∀ right ∈ db.tasks, left.id ≠ right.id → left.agentId = right.agentId →
    left.status.active = true → right.status.active = true → left.serializedWith right = false
  room : ∀ agent ∈ db.claiming, countRunningTasks db agent < db.maxConcurrentTasks agent

theorem initial_serialized (limits : Id → Nat) : Serialized (initial limits) :=
  ⟨initial_wellFormed limits, by simp [initial], by simp [initial]⟩

theorem serializedWith_symm {left right : Task} (serialized : left.serializedWith right = true) :
    right.serializedWith left = true := by
  simp only [Task.serializedWith, Bool.or_eq_true, Bool.and_eq_true, decide_eq_true_eq] at serialized ⊢
  rcases serialized with (⟨linked, same⟩ | ⟨linked, same⟩) | shaped
  · exact Or.inl (Or.inl ⟨same ▸ linked, same.symm⟩)
  · exact Or.inl (Or.inr ⟨same ▸ linked, same.symm⟩)
  · exact Or.inr ⟨⟨⟨⟨⟨shaped.1.1.2, shaped.1.2⟩, shaped.2⟩, shaped.1.1.1.1.1⟩, shaped.1.1.1.1.2⟩,
      shaped.1.1.1.2⟩

theorem Serialized.count_le_one {db : Db} (serialized : Serialized db) {agent : Id}
    {kind : Task → Bool} (related : ∀ left right : Task, kind left = true → kind right = true →
      left.serializedWith right = true) :
    db.tasks.countP (fun task => activeOf agent task && kind task) ≤ 1 := by
  refine TableLib.countP_le_one serialized.unique fun left leftMember right rightMember => ?_
  simp only [activeOf, Bool.and_eq_true, decide_eq_true_eq]
  rintro ⟨⟨leftAgent, leftActive⟩, leftKind⟩ ⟨⟨rightAgent, rightActive⟩, rightKind⟩
  by_contra different
  have apart := serialized.apart left leftMember right rightMember different
    (leftAgent.trans rightAgent.symm) leftActive rightActive
  rw [related left right leftKind rightKind] at apart
  contradiction

theorem Serialized.oneActive {db : Db} (serialized : Serialized db) : OneActive db := by
  constructor
  · intro agent issue
    refine serialized.count_le_one fun left right leftKind rightKind => ?_
    simp only [decide_eq_true_eq] at leftKind rightKind
    simp [Task.serializedWith, leftKind, rightKind]
  · intro agent session
    refine serialized.count_le_one fun left right leftKind rightKind => ?_
    simp only [decide_eq_true_eq] at leftKind rightKind
    simp [Task.serializedWith, leftKind, rightKind]
  · intro agent
    refine serialized.count_le_one fun left right leftKind rightKind => ?_
    simp only [quickCreateShaped, Bool.and_eq_true] at leftKind rightKind
    simp [Task.serializedWith, leftKind, rightKind]

theorem RowStep.serializedWith {now : Nat} {action : Action} {old new : Task}
    (changed : RowStep now action old new)
    (active : new.status.active = true) (other : Task) :
    new.serializedWith other = old.serializedWith other ∧
      other.serializedWith new = other.serializedWith old := by
  have issue : new.issueId = old.issueId := by
    rcases changed.issueId with same | ⟨-, completed, -⟩
    · exact same
    · rw [completed] at active
      contradiction
  simp only [Task.serializedWith, issue, changed.lineage.chatSessionId, changed.lineage.autopilotRunId,
    and_self]

theorem NewRow.inactive {db : Db} {row : Task} (new : NewRow db row) : row.status.active = false := by
  rcases new.waiting with queued | ⟨deferred, -⟩
  · rw [queued]; rfl
  · rw [deferred]; rfl

theorem Serialized.apart_edited {db next : Db} {action : Action} (serialized : Serialized db)
    (edited : Edited db action next) :
    ∀ left ∈ next.tasks, ∀ right ∈ next.tasks, left.id ≠ right.id → left.agentId = right.agentId →
      left.status.active = true → right.status.active = true → left.serializedWith right = false := by
  intro left leftMember right rightMember different sameAgent leftActive rightActive
  rcases edited.mem leftMember with ⟨oldLeft, leftListed, leftStep⟩ | ⟨new, -⟩
  · rcases edited.mem rightMember with ⟨oldRight, rightListed, rightStep⟩ | ⟨new, -⟩
    · rw [(leftStep.serializedWith leftActive right).1,
        (rightStep.serializedWith rightActive oldLeft).2]
      refine serialized.apart oldLeft leftListed oldRight rightListed ?_ ?_ (leftStep.active leftActive)
        (rightStep.active rightActive)
      · rwa [leftStep.lineage.id, rightStep.lineage.id] at different
      · rwa [leftStep.lineage.agentId, rightStep.lineage.agentId] at sameAgent
    · rw [new.inactive] at rightActive
      contradiction
  · rw [new.inactive] at leftActive
    contradiction

theorem Edited.countRunningTasks_le {db next : Db} {action : Action} (edited : Edited db action next)
    (agent : Id) :
    countRunningTasks next agent ≤ countRunningTasks db agent := by
  obtain ⟨change, news, tasks, each, inserted⟩ := edited.rows
  have added : news.countP (fun task => task.agentId = agent && task.status.active) = 0 := by
    rcases inserted with ⟨rfl, -⟩ | ⟨row, rfl, -, new, -⟩
    · rfl
    · simp [new.inactive]
  rw [countRunningTasks, tasks, List.countP_append, added]
  refine TableLib.countP_map_le fun task member active => ?_
  simp only [Bool.and_eq_true, decide_eq_true_eq] at active ⊢
  have changed := each task member
  exact ⟨changed.lineage.agentId.symm.trans active.1, changed.active active.2⟩

structure Locks (db : Db) (action : Action) (next : Db) : Prop where
  claiming : ∀ agent ∈ next.claiming,
    agent ∈ db.claiming ∨ countRunningTasks db agent < db.maxConcurrentTasks agent
  limits : ∀ agent, agent ∈ next.claiming ∨ (∀ limit, action ≠ .setMaxConcurrentTasks agent limit) →
    next.maxConcurrentTasks agent = db.maxConcurrentTasks agent

theorem Locks.same {db next : Db} {action : Action}
    (claiming : ∀ agent ∈ next.claiming, agent ∈ db.claiming)
    (limits : next.maxConcurrentTasks = db.maxConcurrentTasks) : Locks db action next :=
  ⟨fun agent held => Or.inl (claiming agent held), fun agent _ => by rw [limits]⟩

theorem step_locks (db : Db) (action : Action) : Locks db action (step db action) := by
  cases step_shape db action with
  | table shape =>
      rw [TableOnly] at shape
      rw [shape]
      exact .same (fun _ held => held) rfl
  | elapsed seconds next_eq =>
      rw [next_eq]
      exact .same (fun _ held => held) rfl
  | limited agent limit by_set unlocked limits next_eq =>
      refine ⟨fun other held => Or.inl (by rw [next_eq] at held; exact held), fun other kept => ?_⟩
      rw [limits]
      refine Function.update_of_ne ?_ _ _
      rintro rfl
      rcases kept with held | constant
      · rw [next_eq] at held
        exact unlocked held
      · exact constant limit by_set
  | locked agent below next_eq =>
      rw [next_eq]
      refine ⟨fun other held => ?_, fun _ _ => rfl⟩
      rcases List.mem_cons.mp held with rfl | before
      · exact Or.inr below
      · exact Or.inl before
  | released agent next_eq =>
      rw [next_eq]
      refine .same (fun other held => ?_) rfl
      simp only [releaseAgent, List.mem_filter] at held
      exact held.1
  | tokened next_eq =>
      rw [next_eq]
      exact .same (fun _ held => held) rfl
  | @swept matching change next_eq ids fails live =>
      rw [next_eq]
      rcases result : updateMany db matching change with error | ⟨stored, rows⟩
      · exact .same (fun _ held => held) rfl
      · obtain ⟨rfl, -, -⟩ := updateMany_ok result
        exact .same (fun _ held => held) rfl
  | handled index overlay by_handler swept next_eq =>
      rw [next_eq]
      exact .same (fun _ held => held) rfl

section Claims

variable {db next : Db} {agent : Id} {locked : List Id} {task : Task}

theorem Serialized.apart_claimed (serialized : Serialized db)
    (claimed : Claimed db next agent locked task) :
    ∀ left ∈ next.tasks, ∀ right ∈ next.tasks, left.id ≠ right.id → left.agentId = right.agentId →
      left.status.active = true → right.status.active = true → left.serializedWith right = false := by
  obtain ⟨-, -, free⟩ := claimable_spec claimed.claimable
  intro left leftMember right rightMember different sameAgent leftActive rightActive
  rcases claimed.mem serialized.unique leftMember with ⟨leftOld, -⟩ | rfl
  · rcases claimed.mem serialized.unique rightMember with ⟨rightOld, -⟩ | rfl
    · exact serialized.apart left leftOld right rightOld different sameAgent leftActive rightActive
    · have alone : task.serializedWith left = false := free left leftOld sameAgent leftActive
      by_contra both
      have turned : task.serializedWith left = true :=
        serializedWith_symm (Bool.of_not_eq_false both)
      rw [alone] at turned
      contradiction
  · rcases claimed.mem serialized.unique rightMember with ⟨rightOld, -⟩ | rfl
    · exact free right rightOld sameAgent.symm rightActive
    · exact absurd rfl different

theorem Claimed.countRunningTasks_other (claimed : Claimed db next agent locked task)
    (unique : (db.tasks.map Task.id).Nodup) {other : Id} (different : other ≠ agent) :
    countRunningTasks next other ≤ countRunningTasks db other := by
  obtain ⟨owner, -, -⟩ := claimable_spec claimed.claimable
  rw [countRunningTasks, claimed.tasks]
  refine TableLib.countP_map_le fun row member active => ?_
  split at active
  · rename_i matched
    have same : row.id = task.id := by simpa using matched
    rw [List.inj_on_of_nodup_map unique member claimed.member same] at active
    rw [Bool.and_eq_true] at active
    have owned : task.agentId = other := of_decide_eq_true active.1
    exact absurd (owned.symm.trans owner) different
  · exact active

theorem Claimed.countRunningTasks_le (claimed : Claimed db next agent locked task)
    (unique : (db.tasks.map Task.id).Nodup) (other : Id) :
    countRunningTasks next other ≤ countRunningTasks db other + 1 := by
  rw [countRunningTasks, claimed.tasks]
  refine @TableLib.countP_map_le_succ Task Id _ Task.id task.id _ _ _ unique fun row _ different => ?_
  exact if_neg (by simpa using different)

theorem Claimed.claiming (claimed : Claimed db next agent locked task) {other : Id}
    (held : other ∈ next.claiming) : other ∈ db.claiming ∧ other ≠ agent := by
  rw [claimed.rest] at held
  simpa [releaseAgent] using held

end Claims

theorem Serialized.step {db : Db} (serialized : Serialized db) (action : Action) :
    Serialized (step db action) := by
  have locks := step_locks db action
  have formed := serialized.toWellFormed.step action
  rcases step_cases serialized.unique action with edited | ⟨agent, locked, task, -, claimed⟩
  · refine ⟨formed, serialized.apart_edited edited, fun agent held => ?_⟩
    have shrinks := edited.countRunningTasks_le agent
    rw [locks.limits agent (Or.inl held)]
    rcases locks.claiming agent held with before | below
    · exact Nat.lt_of_le_of_lt shrinks (serialized.room agent before)
    · exact Nat.lt_of_le_of_lt shrinks below
  · refine ⟨formed, serialized.apart_claimed claimed, fun other held => ?_⟩
    obtain ⟨before, different⟩ := claimed.claiming held
    rw [locks.limits other (Or.inl held)]
    exact Nat.lt_of_le_of_lt (claimed.countRunningTasks_other serialized.unique different)
      (serialized.room other before)

theorem reachable_serialized (limits : Id → Nat) (actions : List Action) :
    Serialized (RunLib.run step (initial limits) actions) :=
  RunLib.run_invariant (initial_serialized limits) (fun _ action serialized => serialized.step action)
    actions

theorem Serialized.room_of_activated {db : Db} (serialized : Serialized db) {action : Action}
    {task row : Task} (member : task ∈ db.tasks) (listed : row ∈ (TaskQueue.step db action).tasks)
    (same : row.id = task.id) (inactive : task.status.active = false)
    (active : row.status.active = true) :
    countRunningTasks db task.agentId < db.maxConcurrentTasks task.agentId := by
  rcases step_cases serialized.unique action with edited | ⟨agent, locked, claimedTask, -, claimed⟩
  · rcases edited.mem listed with ⟨old, oldMember, changed⟩ | ⟨new, -⟩
    · have oldActive := changed.active active
      rw [List.inj_on_of_nodup_map serialized.unique oldMember member
        (changed.lineage.id.symm.trans same), inactive] at oldActive
      contradiction
    · rw [new.inactive] at active
      contradiction
  · obtain ⟨owner, -, -⟩ := claimable_spec claimed.claimable
    rcases claimed.mem serialized.unique listed with ⟨old, -⟩ | rfl
    · rw [List.inj_on_of_nodup_map serialized.unique old member same, inactive] at active
      contradiction
    · have sameTask := List.inj_on_of_nodup_map serialized.unique claimed.member member same
      rw [← sameTask, owner]
      exact serialized.room agent claimed.holds

theorem countRunningTasks_within {limits : Id → Nat} {agent : Id} {actions : List Action}
    (constant : ∀ action ∈ actions, ∀ limit, action ≠ .setMaxConcurrentTasks agent limit) {db : Db}
    (serialized : Serialized db) (limit : db.maxConcurrentTasks agent = limits agent)
    (within : countRunningTasks db agent ≤ limits agent) :
    RunLib.Always step (fun db => countRunningTasks db agent ≤ limits agent) db actions := by
  induction actions generalizing db with
  | nil => exact within
  | cons action rest ih =>
      have kept := (step_locks db action).limits agent (Or.inr (constant action (by simp)))
      have later := fun other member => constant other (List.mem_cons_of_mem action member)
      refine ⟨within, ih later (serialized.step action) (kept.trans limit) ?_⟩
      rcases step_cases serialized.unique action with edited | ⟨claimer, locked, task, -, claimed⟩
      · exact Nat.le_trans (edited.countRunningTasks_le agent) within
      · by_cases same : agent = claimer
        · have room := serialized.room claimer claimed.holds
          have added := claimed.countRunningTasks_le serialized.unique agent
          rw [← same, limit] at room
          omega
        · exact Nat.le_trans (claimed.countRunningTasks_other serialized.unique same) within

/-- In every run, claims are serialized per issue, chat session and quick creation; a row
becomes active only below its agent's limit; and with a constant limit the agent's active
tasks stay within it. -/
theorem claims_serialized_per_agent (limits : Id → Nat) (actions : List Action) :
    RunLib.Always step OneActive (initial limits) actions ∧
      (∀ front action back, actions = front ++ action :: back →
        ∀ task ∈ (RunLib.run step (initial limits) front).tasks,
          ∀ row ∈ (step (RunLib.run step (initial limits) front) action).tasks,
            row.id = task.id → task.status.active = false → row.status.active = true →
              countRunningTasks (RunLib.run step (initial limits) front) task.agentId <
                (RunLib.run step (initial limits) front).maxConcurrentTasks task.agentId) ∧
      ∀ agent, (∀ action ∈ actions, ∀ limit, action ≠ .setMaxConcurrentTasks agent limit) →
        RunLib.Always step (fun db => countRunningTasks db agent ≤ limits agent) (initial limits)
          actions := by
  refine ⟨?_, ?_, ?_⟩
  · have always : RunLib.Always step Serialized (initial limits) actions :=
      RunLib.always_of_preserved (initial_serialized limits)
        (fun _ action serialized => serialized.step action) actions
    exact always.mono fun _ serialized => serialized.oneActive
  · intro front action back _ task member row listed same inactive active
    exact (reachable_serialized limits front).room_of_activated member listed same inactive active
  · intro agent constant
    exact countRunningTasks_within constant (initial_serialized limits) rfl
      (by simp [countRunningTasks, initial])

end MulticaOS.TaskQueue
