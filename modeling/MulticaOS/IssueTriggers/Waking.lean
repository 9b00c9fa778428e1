import MulticaOS.IssueTriggers.Starting

/-!
The runs that finished children start on their parents: which of the notices of a write reach an
agent that can be woken.
-/

namespace MulticaOS.IssueTriggers

open TaskQueue (Db)

/-- The agent a notice would wake, with the squad it leads, where it is live and has a runtime. -/
def wakeTarget (site : Site) (parent : Issues.Issue) : Option (Id × Agent × Option Id) :=
  match parent.assigneeType, parent.assigneeId with
  | some kind, some assigneeId =>
      if kind = "agent" then
        ((getAgentInWorkspace site assigneeId parent.workspaceId).filter fun agent =>
          agent.runtimeId.isSome && !agent.archived).map fun agent => (assigneeId, agent, none)
      else if kind = "squad" then
        (getSquadInWorkspace site assigneeId parent.workspaceId).bind fun squad =>
          ((site.agents squad.leaderId).filter fun agent => agent.runtimeId.isSome && !agent.archived).map
            fun agent => (squad.leaderId, agent, some assigneeId)
      else none
  | _, _ => none

def wakes (site : Site) (issues : Issues.Table) (queue : Db) (parentId : Id) : Option Id :=
  (issues parentId).bind fun parent =>
    (wakeTarget site parent).bind fun (agentId, agent, _) =>
      if attributed site parentId parent agent .delegation none && !slotTaken queue parentId agentId then
        some agentId
      else none

def wake (site : Site) (state : State) (parentId : Id) (parent : Issues.Issue) (agentId : Id)
    (squadId : Option Id) : State :=
  if hasPendingTaskForIssueAndAgent state.queue parentId agentId (site.reviewHeadSha parentId) then state
  else
    state.enqueued parentId agentId
      (enqueueAgentTask site state.queue parentId parent agentId squadId .delegation none)

theorem dispatchParentAssigneeTrigger_eq (site : Site) (state : State) (parentId : Id) :
    dispatchParentAssigneeTrigger site state parentId =
      match state.issues parentId with
      | none => state
      | some parent =>
          match wakeTarget site parent with
          | none => state
          | some (agentId, _, squadId) => wake site state parentId parent agentId squadId := by
  rw [dispatchParentAssigneeTrigger]
  cases state.issues parentId with
  | none => rfl
  | some parent =>
      simp only [wakeTarget]
      cases parent.assigneeType with
      | none => rfl
      | some kind =>
          cases parent.assigneeId with
          | none => rfl
          | some assigneeId =>
              by_cases isAgent : kind = "agent"
              · simp only [isAgent, if_true, triggerChildDoneAgent]
                cases getAgentInWorkspace site assigneeId parent.workspaceId with
                | none => rfl
                | some agent =>
                    cases runtime : agent.runtimeId <;> cases archived : agent.archived <;>
                      simp [Option.filter, runtime, archived, wake, enqueueTaskForMention]
              · by_cases isSquad : kind = "squad"
                · simp only [isSquad, if_true, triggerChildDoneSquad]
                  cases getSquadInWorkspace site assigneeId parent.workspaceId with
                  | none => rfl
                  | some squad =>
                      dsimp only
                      cases led : site.agents squad.leaderId with
                      | none => simp [led]
                      | some agent =>
                          cases runtime : agent.runtimeId <;> cases archived : agent.archived <;>
                            simp [led, Option.filter, runtime, archived, wake, enqueueTaskForSquadLeader]
                · simp [isAgent, isSquad]

theorem wakeTarget_ready {site : Site} {parent : Issues.Issue} {agentId : Id} {agent : Agent}
    {squadId : Option Id} (target : wakeTarget site parent = some (agentId, agent, squadId)) :
    site.agents agentId = some agent ∧ agent.archived = false ∧ agent.runtimeId.isSome = true := by
  rw [wakeTarget] at target
  split at target
  · split at target
    · obtain ⟨found, passes, same⟩ := Option.map_eq_some_iff.mp target
      cases same
      obtain ⟨here, runnable⟩ := Option.filter_eq_some_iff.mp passes
      simp only [Bool.and_eq_true, Bool.not_eq_true'] at runnable
      exact ⟨(getAgentInWorkspace_iff.mp here).1, runnable.2, runnable.1⟩
    · split at target
      · obtain ⟨squad, -, led⟩ := Option.bind_eq_some_iff.mp target
        obtain ⟨found, passes, same⟩ := Option.map_eq_some_iff.mp led
        cases same
        obtain ⟨here, runnable⟩ := Option.filter_eq_some_iff.mp passes
        simp only [Bool.and_eq_true, Bool.not_eq_true'] at runnable
        exact ⟨here, runnable.2, runnable.1⟩
      · contradiction
  · contradiction

theorem dispatchParent_cases {site : Site} {state : State} {parentId : Id}
    (unique : TaskQueue.PendingUnique state.queue.tasks) :
    (∃ agentId, wakes site state.issues state.queue parentId = some agentId ∧
        Started state (dispatchParentAssigneeTrigger site state parentId) parentId agentId) ∨
      (wakes site state.issues state.queue parentId = none ∧
        dispatchParentAssigneeTrigger site state parentId = state) := by
  rw [dispatchParentAssigneeTrigger_eq, wakes]
  cases state.issues parentId with
  | none => exact .inr ⟨rfl, rfl⟩
  | some parent =>
      simp only [Option.bind_some]
      cases target : wakeTarget site parent with
      | none => exact .inr ⟨rfl, rfl⟩
      | some triple =>
          obtain ⟨agentId, agent, squadId⟩ := triple
          obtain ⟨found, live, bound⟩ := wakeTarget_ready target
          simp only [Option.bind_some, wake]
          cases pending : hasPendingTaskForIssueAndAgent state.queue parentId agentId
              (site.reviewHeadSha parentId) with
          | true => exact .inr ⟨by simp [slotTaken_of_pending pending], rfl⟩
          | false =>
              rcases enqueueAgentTask_cases unique parentId parent squadId .delegation none found live bound
                with ⟨made, next, task, created, grown⟩ | ⟨refused, refusal, failed⟩
              · refine .inl ⟨agentId, if_pos made, next, ?_, grown⟩
                simp [created, State.enqueued]
              · exact .inr ⟨by simp only [refused, Bool.false_eq_true, if_false], by simp [failed, State.enqueued]⟩

theorem Started.unique {before after : State} {id agentId : Id} (next : Started before after id agentId) :
    TaskQueue.PendingUnique after.queue.tasks := by
  obtain ⟨queue, rfl, grown⟩ := next
  exact grown.unique

theorem postNotices_runs {site : Site} {notices : List ChildDone.Notice} {state : State}
    (unique : TaskQueue.PendingUnique state.queue.tasks) :
    ∃ more, (postNotices site state notices).runs = state.runs ++ more := by
  induction notices generalizing state with
  | nil => exact ⟨[], (List.append_nil _).symm⟩
  | cons notice rest ih =>
      rw [postNotices, List.foldl_cons, ← postNotices]
      rcases @dispatchParent_cases site state notice.parentId unique with
        ⟨agentId, -, next⟩ | ⟨-, same⟩
      · obtain ⟨more, runs⟩ := ih next.unique
        obtain ⟨queue, after, -⟩ := next
        refine ⟨(notice.parentId, agentId) :: more, ?_⟩
        rw [runs, after, List.append_assoc]
        rfl
      · rw [same]
        exact ih unique

theorem postNotices_cases {site : Site} {notices : List ChildDone.Notice} {state : State}
    (unique : TaskQueue.PendingUnique state.queue.tasks) :
    ((∀ notice ∈ notices, wakes site state.issues state.queue notice.parentId = none) ∧
        postNotices site state notices = state) ∨
      ∃ notice ∈ notices, ∃ agentId more,
        wakes site state.issues state.queue notice.parentId = some agentId ∧
          (postNotices site state notices).runs = state.runs ++ (notice.parentId, agentId) :: more := by
  induction notices with
  | nil => exact .inl ⟨by simp, rfl⟩
  | cons notice rest ih =>
      rw [postNotices, List.foldl_cons, ← postNotices]
      rcases @dispatchParent_cases site state notice.parentId unique with
        ⟨agentId, woken, next⟩ | ⟨asleep, same⟩
      · obtain ⟨more, runs⟩ := @postNotices_runs site rest _ next.unique
        obtain ⟨queue, after, -⟩ := next
        refine .inr ⟨notice, by simp, agentId, more, woken, ?_⟩
        rw [runs, after, List.append_assoc]
        rfl
      · rw [same]
        rcases ih with ⟨quiet, unchanged⟩ | ⟨later, listed, agentId, more, woken, runs⟩
        · refine .inl ⟨fun other member => ?_, unchanged⟩
          rcases List.mem_cons.mp member with rfl | inRest
          · exact asleep
          · exact quiet other inRest
        · exact .inr ⟨later, List.mem_cons_of_mem _ listed, agentId, more, woken, runs⟩

end MulticaOS.IssueTriggers
