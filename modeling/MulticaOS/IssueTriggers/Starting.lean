import MulticaOS.IssueTriggers.Preview

/-!
Which decided runs get a row: the target of a decision, the gate of a squad, attribution and the
slot of the unique index, for the writes of an existing issue and for a create alike.
-/

namespace MulticaOS.IssueTriggers

open TaskQueue (Db)

structure Ready (site : Site) (issue : Issues.Issue) (target : Target) : Prop where
  found : site.agents target.agentId = some target.agent
  live : target.agent.archived = false
  bound : target.agent.runtimeId.isSome = true
  stands : (target.kind = .agent ∧ issue.assigneeType = some "agent" ∧
      issue.assigneeId = some target.agentId) ∨
    (target.kind = .squad ∧ issue.assigneeType = some "squad" ∧ ∃ squadId squad,
      issue.assigneeId = some squadId ∧ getSquadInWorkspace site squadId issue.workspaceId = some squad ∧
        squad.leaderId = target.agentId ∧ agentReadiness site target.agent = true)

theorem agentReadiness_live {site : Site} {agent : Agent} (ready : agentReadiness site agent = true) :
    agent.archived = false ∧ agent.runtimeId.isSome = true := by
  simp only [agentReadiness, Bool.and_eq_true, Bool.not_eq_true'] at ready
  refine ⟨ready.1, ?_⟩
  cases runtime : agent.runtimeId with
  | none => simp [runtime] at ready
  | some runtimeId => rfl

theorem runTarget_ready {site : Site} {issue : Issues.Issue} {target : Target}
    (ready : runTarget site issue = some target) : Ready site issue target := by
  rw [runTarget] at ready
  split at ready
  · rename_i kind assigneeId typed assigned
    split at ready
    · rename_i isAgent
      obtain ⟨agent, passes, rfl⟩ := Option.map_eq_some_iff.mp ready
      obtain ⟨found, runnable⟩ := Option.filter_eq_some_iff.mp passes
      simp only [Bool.and_eq_true, Bool.not_eq_true'] at runnable
      exact ⟨found, runnable.2, runnable.1, .inl ⟨rfl, isAgent ▸ typed, assigned⟩⟩
    · split at ready
      · rename_i isSquad
        obtain ⟨squad, here, led⟩ := Option.bind_eq_some_iff.mp ready
        obtain ⟨leader, passes, rfl⟩ := Option.map_eq_some_iff.mp led
        obtain ⟨found, runnable⟩ := Option.filter_eq_some_iff.mp passes
        obtain ⟨live, bound⟩ := agentReadiness_live runnable
        exact ⟨found, live, bound, .inr ⟨rfl, isSquad ▸ typed, assigneeId, squad, assigned, here, rfl, runnable⟩⟩
      · contradiction
  · contradiction

def rowMade (site : Site) (queue : Db) (id : Id) (issue : Issues.Issue) (target : Target) (gate : Bool)
    (actorUserId : Option Id) : Bool :=
  (match target.kind with
    | .agent => attributed site id issue target.agent .commentSource actorUserId
    | .squad => gate && attributed site id issue target.agent .delegation actorUserId) &&
    !slotTaken queue id target.agentId

def Started (before after : State) (id agentId : Id) : Prop :=
  ∃ queue, after = { before with queue := queue, runs := before.runs ++ [(id, agentId)] } ∧
    Grown before.queue queue id agentId

section

variable {site : Site} {state : State} {id : Id} {issue : Issues.Issue} {target : Target}

theorem agent_started (unique : TaskQueue.PendingUnique state.queue.tasks)
    (ready : runTarget site issue = some target) (isAgent : target.kind = .agent) (gate : Bool)
    (actorUserId : Option Id) :
    (rowMade site state.queue id issue target gate actorUserId = true ∧
        Started state (state.enqueued id target.agentId
          (enqueueIssueTask site state.queue id issue actorUserId)) id target.agentId) ∨
      (rowMade site state.queue id issue target gate actorUserId = false ∧
        state.enqueued id target.agentId (enqueueIssueTask site state.queue id issue actorUserId) = state) := by
  obtain ⟨found, live, bound, ⟨-, -, assigned⟩ | ⟨isSquad, -⟩⟩ := runTarget_ready ready
  · rw [enqueueIssueTask, assigned, rowMade, isAgent]
    rcases enqueueAgentTask_cases unique id issue none .commentSource actorUserId found live bound with
      ⟨made, next, task, created, grown⟩ | ⟨refused, refusal, failed⟩
    · refine .inl ⟨made, next, ?_, grown⟩
      simp only [created, State.enqueued]
    · refine .inr ⟨refused, ?_⟩
      simp only [failed, State.enqueued]
  · rw [isAgent] at isSquad
    contradiction

theorem leader_started (unique : TaskQueue.PendingUnique state.queue.tasks)
    (ready : runTarget site issue = some target) (isSquad : target.kind = .squad) (gate : Id → Bool)
    (actorUserId : Option Id) :
    (rowMade site state.queue id issue target (gate target.agentId) actorUserId = true ∧
        Started state (enqueueLeader site state id issue gate actorUserId) id target.agentId) ∨
      (rowMade site state.queue id issue target (gate target.agentId) actorUserId = false ∧
        enqueueLeader site state id issue gate actorUserId = state) := by
  obtain ⟨found, live, bound, ⟨isAgent, -⟩ | ⟨-, -, squadId, squad, assigned, here, led, -⟩⟩ :=
    runTarget_ready ready
  · rw [isSquad] at isAgent
    contradiction
  · simp only [enqueueLeader, assigned, here, led, rowMade, isSquad]
    cases passes : gate target.agentId with
    | false => exact .inr ⟨rfl, rfl⟩
    | true =>
        cases pending : hasPendingTaskForIssueAndAgent state.queue id target.agentId
            (site.reviewHeadSha id) with
        | true => exact .inr ⟨by simp [slotTaken_of_pending pending], rfl⟩
        | false =>
            rw [enqueueTaskForSquadLeader]
            rcases enqueueAgentTask_cases unique id issue (some squadId) .delegation actorUserId found live
              bound with ⟨made, next, task, created, grown⟩ | ⟨refused, refusal, failed⟩
            · refine .inl ⟨by simpa using made, next, ?_, grown⟩
              simp [created, State.enqueued]
            · refine .inr ⟨by simpa using refused, ?_⟩
              simp [failed, State.enqueued]

end

def leaderGate (site : Site) (caller : Caller) (id : Id) (issue : Issues.Issue) (leader : Agent) : Bool :=
  canInvokeAgent site leader caller.actor (leaderOriginator site caller id issue) issue.workspaceId

def dispatches (site : Site) (caller : Caller) (queue : Db) (id : Id) (issue : Issues.Issue)
    (target : Target) : Bool :=
  rowMade site queue id issue target (leaderGate site caller id issue target.agent)
    (memberActorUserId caller.actor)

def started (site : Site) (caller : Caller) (queue : Db) (id : Id) (input : TriggerInput) : Option Id :=
  (runSource input (isAgentRunningOnIssue site caller (some id))).bind fun _ =>
    (runTarget site input.issue).bind fun target =>
      if dispatches site caller queue id input.issue target then some target.agentId else none

theorem rowMade_congr {site : Site} {before after : Db} {id : Id}
    (same : ∀ agentId, slotTaken after id agentId = slotTaken before id agentId) (issue : Issues.Issue)
    (target : Target) (gate : Bool) (actorUserId : Option Id) :
    rowMade site after id issue target gate actorUserId =
      rowMade site before id issue target gate actorUserId := by
  rw [rowMade, rowMade, same]

theorem started_congr {site : Site} {caller : Caller} {before after : Db} {id : Id} {input : TriggerInput}
    (same : ∀ agentId, slotTaken after id agentId = slotTaken before id agentId) :
    started site caller after id input = started site caller before id input := by
  have dispatched : dispatches site caller after id input.issue = dispatches site caller before id input.issue :=
    funext fun target => rowMade_congr same input.issue target _ _
  rw [started, started, dispatched]

theorem startRun_cases {site : Site} {caller : Caller} {state : State} {id : Id}
    {input : Issues.IssueTriggerInput} (unique : TaskQueue.PendingUnique state.queue.tasks) :
    (∃ agentId, started site caller state.queue id ⟨input, some id, false⟩ = some agentId ∧
        Started state (startRun site caller state id input) id agentId) ∨
      (started site caller state.queue id ⟨input, some id, false⟩ = none ∧
        startRun site caller state id input = state) := by
  simp only [startRun, willEnqueueRun_eq, started, issueTriggerWriteProbe, Probe.access, Bool.true_and]
  cases runSource ⟨input, some id, false⟩ (isAgentRunningOnIssue site caller (some id)) with
  | none => exact .inr ⟨rfl, rfl⟩
  | some source =>
      simp only [Option.bind_some]
      cases ready : runTarget site input.issue with
      | none => exact .inr ⟨rfl, rfl⟩
      | some target =>
          simp only [Option.bind_some]
          cases pending : source = .status && hasPendingRun site state.queue (some id) target.agentId with
          | true =>
              -- the pending task also holds the slot, so this run would not get its row
              simp only [Bool.and_eq_true] at pending
              have taken : slotTaken state.queue id target.agentId = true :=
                slotTaken_of_pending (by simpa [hasPendingRun] using pending.2)
              exact .inr ⟨by simp [dispatches, rowMade, taken], rfl⟩
          | false =>
              simp only [Bool.not_false, if_true]
              have dispatched : (dispatches site caller state.queue id input.issue target = true ∧
                    Started state (dispatchIssueRun site caller state id input.issue
                      ⟨some id, target.agentId, target.kind, source⟩) id target.agentId) ∨
                  (dispatches site caller state.queue id input.issue target = false ∧
                    dispatchIssueRun site caller state id input.issue
                      ⟨some id, target.agentId, target.kind, source⟩ = state) := by
                cases kind : target.kind with
                | agent => exact agent_started unique ready kind _ _
                | squad =>
                    have gate : canEnqueueSquadLeader site target.agentId caller.actor
                        (leaderOriginator site caller id input.issue) input.issue.workspaceId =
                        leaderGate site caller id input.issue target.agent := by
                      simp only [canEnqueueSquadLeader, (runTarget_ready ready).found, leaderGate]
                    have cases := @leader_started site state id input.issue target unique ready kind
                      (fun leaderId => canEnqueueSquadLeader site leaderId caller.actor
                        (leaderOriginator site caller id input.issue) input.issue.workspaceId)
                      (memberActorUserId caller.actor)
                    rw [gate] at cases
                    exact cases
              rcases dispatched with ⟨made, next⟩ | ⟨refused, same⟩
              · exact .inl ⟨target.agentId, by simp [made], next⟩
              · exact .inr ⟨by simp [refused], same⟩

def createStarted (site : Site) (queue : Db) (id : Id) (issue : Issues.Issue) : Option Id :=
  if issue.status = "backlog" then none
  else
    (runTarget site issue).bind fun target =>
      if rowMade site queue id issue target true none then some target.agentId else none

theorem ready_checks (site : Site) (issue : Issues.Issue) :
    isAgentAssigneeReady site issue = ((runTarget site issue).any fun target => target.kind = .agent) ∧
      isSquadLeaderReady site issue = (runTarget site issue).any fun target => target.kind = .squad := by
  simp only [isAgentAssigneeReady, isSquadLeaderReady, runTarget]
  cases issue.assigneeType with
  | none => exact ⟨rfl, rfl⟩
  | some kind =>
      cases issue.assigneeId with
      | none => exact ⟨rfl, rfl⟩
      | some assigneeId =>
          by_cases isAgent : kind = "agent"
          · subst isAgent
            dsimp only
            cases site.agents assigneeId with
            | none => exact ⟨rfl, rfl⟩
            | some agent =>
                cases bound : agent.runtimeId.isSome <;> cases archived : agent.archived <;>
                  simp [Option.filter, bound, archived]
          · by_cases isSquad : kind = "squad"
            · subst isSquad
              dsimp only
              cases getSquadInWorkspace site assigneeId issue.workspaceId with
              | none => exact ⟨rfl, rfl⟩
              | some squad =>
                  simp only [Option.bind_some, Option.any_some]
                  cases site.agents squad.leaderId with
                  | none => exact ⟨rfl, rfl⟩
                  | some leader => cases ready : agentReadiness site leader <;> simp [Option.filter, ready]
            · simp [isAgent, isSquad]

theorem maybeEnqueueOnAssign_cases {site : Site} {state : State} {id : Id} {issue : Issues.Issue}
    (unique : TaskQueue.PendingUnique state.queue.tasks) :
    (∃ agentId, createStarted site state.queue id issue = some agentId ∧
        Started state (maybeEnqueueOnAssign site state id issue) id agentId) ∨
      (createStarted site state.queue id issue = none ∧
        maybeEnqueueOnAssign site state id issue = state) := by
  obtain ⟨agentReady, leaderReady⟩ := ready_checks site issue
  by_cases parked : issue.status = "backlog"
  · refine .inr ⟨if_pos parked, ?_⟩
    simp only [maybeEnqueueOnAssign, shouldEnqueueAgentTask, shouldEnqueueSquadLeaderOnAssign, parked]
    split <;> rfl
  · simp only [createStarted, if_neg parked]
    cases ready : runTarget site issue with
    | none =>
        refine .inr ⟨rfl, ?_⟩
        simp only [maybeEnqueueOnAssign, shouldEnqueueAgentTask, shouldEnqueueSquadLeaderOnAssign, agentReady,
          leaderReady, ready, Option.any_none, Bool.and_false, Bool.false_eq_true, if_false]
        split <;> rfl
    | some target =>
        simp only [Option.bind_some]
        have enqueued : (rowMade site state.queue id issue target true none = true ∧
              Started state (maybeEnqueueOnAssign site state id issue) id target.agentId) ∨
            (rowMade site state.queue id issue target true none = false ∧
              maybeEnqueueOnAssign site state id issue = state) := by
          obtain ⟨-, -, -, ⟨isAgent, typed, assigned⟩ | ⟨isSquad, typed, squadId, squad, assigned, -⟩⟩ :=
            runTarget_ready ready
          · have same : maybeEnqueueOnAssign site state id issue = state.enqueued id target.agentId
                (enqueueIssueTask site state.queue id issue none) := by
              simp [maybeEnqueueOnAssign, shouldEnqueueAgentTask, shouldEnqueueSquadLeaderOnAssign, agentReady,
                leaderReady, ready, isAgent, typed, assigned, parked]
            rw [same]
            exact agent_started unique ready isAgent true none
          · have same : maybeEnqueueOnAssign site state id issue =
                enqueueLeader site state id issue (fun _ => true) none := by
              simp [maybeEnqueueOnAssign, shouldEnqueueAgentTask, shouldEnqueueSquadLeaderOnAssign, agentReady,
                leaderReady, ready, isSquad, typed, assigned, parked]
            rw [same]
            exact leader_started unique ready isSquad (fun _ => true) none
        rcases enqueued with ⟨made, next⟩ | ⟨refused, same⟩
        · exact .inl ⟨target.agentId, by simp [made], next⟩
        · exact .inr ⟨by simp [refused], same⟩

end MulticaOS.IssueTriggers
