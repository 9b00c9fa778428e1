import MulticaOS.IssueTriggers.Sweeps

/-!
When the preview of one issue names the agent that its write starts: by the way the run comes about,
an assignment or a promotion out of the backlog.
-/

namespace MulticaOS.IssueTriggers

open TaskQueue (Db)

def Change.statusValid (change : Change) : Bool :=
  change.status.all fun status => status ∈ Issues.validIssueStatuses

def Change.assigns (change : Change) (id : Id) (prev : Issues.Issue) : Prop :=
  (change.input id prev).assigneeChanged = true ∧ (change.apply prev).status ≠ "backlog"

/-- The issue keeps its assignee and leaves the backlog, but not for an end, and not by a task that
runs on it. -/
def Change.promotes (change : Change) (site : Site) (caller : Caller) (id : Id) (prev : Issues.Issue) :
    Prop :=
  (change.input id prev).assigneeChanged = false ∧ (change.input id prev).statusChanged = true ∧
    prev.status = "backlog" ∧ (change.apply prev).status ≠ "done" ∧ (change.apply prev).status ≠ "cancelled" ∧
      isAgentRunningOnIssue site caller (some id) = false

def assignable (site : Site) (workspaceId : Id) (issue : Issues.Issue) (target : Target) : Bool :=
  match target.kind with
  | .agent => target.agent.workspaceId = workspaceId && target.agent.ofKindUser
  | .squad => (issue.assigneeId.bind fun squadId => getSquadInWorkspace site squadId workspaceId).any
      fun squad => !squad.archived

structure IssuePredicted (site : Site) (caller : Caller) (queue : Db) (workspaceId : Id) (change : Change)
    (id : Id) (prev : Issues.Issue) : Prop where
  assigned : change.assigns id prev → ∀ target, runTarget site (change.apply prev) = some target →
    requestCanInvoke site caller workspaceId target.agent = true →
      change.statusValid = true ∧ assignable site workspaceId (change.apply prev) target = true ∧
        dispatches site caller queue id (change.apply prev) target = true
  promoted : change.promotes site caller id prev → ∀ target,
    runTarget site (change.apply prev) = some target →
      hasPendingRun site queue (some id) target.agentId = false →
        (requestCanInvoke site caller workspaceId target.agent = true ↔
          change.statusValid = true ∧ change.accepted site caller workspaceId = true ∧
            dispatches site caller queue id (change.apply prev) target = true)

section

variable {site : Site} {caller : Caller} {queue : Db} {workspaceId id : Id} {change : Change}
  {prev : Issues.Issue}

theorem runSource_cases (change : Change) (site : Site) (caller : Caller) (id : Id) (prev : Issues.Issue) :
    (change.assigns id prev ∧ ¬change.promotes site caller id prev ∧
        runSource (change.input id prev) (isAgentRunningOnIssue site caller (some id)) = some .assign) ∨
      (¬change.assigns id prev ∧ change.promotes site caller id prev ∧
        runSource (change.input id prev) (isAgentRunningOnIssue site caller (some id)) = some .status) ∨
      (¬change.assigns id prev ∧ ¬change.promotes site caller id prev ∧
        runSource (change.input id prev) (isAgentRunningOnIssue site caller (some id)) = none) := by
  have issue : (change.input id prev).issue = change.apply prev := rfl
  have before : (change.input id prev).prevStatus = prev.status := rfl
  have create : (change.input id prev).isCreate = false := rfl
  simp only [runSource, Change.assigns, Change.promotes, issue, before, create, Bool.false_or]
  cases (change.input id prev).assigneeChanged with
  | true => by_cases parked : (change.apply prev).status = "backlog" <;> simp [parked]
  | false =>
      cases (change.input id prev).statusChanged with
      | false => simp
      | true =>
          by_cases wasParked : prev.status = "backlog"
          · by_cases done : (change.apply prev).status = "done"
            · simp [done]
            · by_cases cancelled : (change.apply prev).status = "cancelled"
              · simp [cancelled]
              · cases isAgentRunningOnIssue site caller (some id) <;> simp [wasParked, done, cancelled]
          · simp [wasParked]

theorem accepted_iff {issue : Issues.Issue} {target : Target} {kind : String} {assigneeId : Id}
    (given : change.assignee = some (kind, assigneeId)) (typed : issue.assigneeType = some kind)
    (identified : issue.assigneeId = some assigneeId) (own : issue.workspaceId = workspaceId)
    (ready : runTarget site issue = some target) :
    change.accepted site caller workspaceId = true ↔
      assignable site workspaceId issue target = true ∧
        requestCanInvoke site caller workspaceId target.agent = true := by
  have valid : change.accepted site caller workspaceId = true ↔
      Issues.validateAssigneePair (site.directory caller) workspaceId (some kind) (some assigneeId) = .ok () := by
    rw [Change.accepted, Change.validate, given]
    dsimp only
    cases Issues.validateAssigneePair (site.directory caller) workspaceId (some kind) (some assigneeId) with
    | error refusal => simp
    | ok _ => simp
  rw [valid]
  obtain ⟨found, live, -, ⟨isAgent, agentType, agentId⟩ | ⟨isSquad, squadType, squadId, squad, squadAssigned,
    here, led, -⟩⟩ := runTarget_ready ready
  · obtain rfl : kind = "agent" := Option.some.inj (typed.symm.trans agentType)
    obtain rfl : assigneeId = target.agentId := Option.some.inj (identified.symm.trans agentId)
    rw [validateAssigneePair_agent found live, assignable, isAgent]
    simp only [Bool.and_eq_true, decide_eq_true_eq, and_assoc]
  · obtain rfl : kind = "squad" := Option.some.inj (typed.symm.trans squadType)
    obtain rfl : assigneeId = squadId := Option.some.inj (identified.symm.trans squadAssigned)
    rw [own] at here
    rw [validateAssigneePair_squad here (led ▸ found) live, assignable, isSquad]
    simp only [identified, Option.bind_some, here, Option.any_some, Bool.not_eq_true']

theorem assignee_of_assigns (assigns : change.assigns id prev) : ∃ kind assigneeId,
    change.assignee = some (kind, assigneeId) ∧ (change.apply prev).assigneeType = some kind ∧
      (change.apply prev).assigneeId = some assigneeId := by
  have changed := assigns.1
  cases given : change.assignee with
  | none => simp [Change.input, given] at changed
  | some pair =>
      obtain ⟨kind, assigneeId⟩ := pair
      exact ⟨kind, assigneeId, rfl, by simp [Change.apply, given], by simp [Change.apply, given]⟩

theorem assignment_predicted_iff {passes assigned : Prop} {invocable made : Bool} {target : Id} :
    (∀ agentId, (if invocable = true then some target else none) = some agentId ↔
        (passes ∧ assigned ∧ invocable = true) ∧ (if made = true then some target else none) = some agentId) ↔
      (invocable = true → passes ∧ assigned ∧ made = true) := by
  simp only [Option.ite_none_right_eq_some, Option.some.injEq]
  constructor
  · intro same isInvocable
    obtain ⟨⟨passed, isAssigned, -⟩, isMade, -⟩ := (same target).mp ⟨isInvocable, rfl⟩
    exact ⟨passed, isAssigned, isMade⟩
  · intro predicted agentId
    constructor
    · rintro ⟨isInvocable, same⟩
      obtain ⟨passed, isAssigned, isMade⟩ := predicted isInvocable
      exact ⟨⟨passed, isAssigned, isInvocable⟩, isMade, same⟩
    · rintro ⟨⟨-, -, isInvocable⟩, -, same⟩
      exact ⟨isInvocable, same⟩

theorem issuePredicted_iff (own : prev.workspaceId = workspaceId) :
    (∀ agentId, previewed site caller queue workspaceId (change.input id prev) = some agentId ↔
        (change.statusValid = true ∧ change.accepted site caller workspaceId = true) ∧
          started site caller queue id (change.input id prev) = some agentId) ↔
      IssuePredicted site caller queue workspaceId change id prev := by
  have issue : (change.input id prev).issue = change.apply prev := rfl
  have itself : (change.input id prev).issueId = some id := rfl
  rcases runSource_cases change site caller id prev with ⟨assigns, stays, source⟩ | ⟨keeps, promotes, source⟩ |
    ⟨keeps, stays, source⟩
  · obtain ⟨kind, assigneeId, given, typed, identified⟩ := assignee_of_assigns assigns
    simp only [previewed, started, itself, source, Option.bind_some, issue]
    cases ready : runTarget site (change.apply prev) with
    | none =>
        refine iff_of_true (by simp) ⟨fun _ target target' => ?_, fun promotes => absurd promotes stays⟩
        rw [ready] at target'
        contradiction
    | some target =>
        have valid := @accepted_iff site caller workspaceId change _ _ _ _ given typed identified own ready
        simp only [Option.bind_some, reduceCtorEq, decide_false, Bool.false_and, Bool.not_false, Bool.and_true,
          valid]
        rw [assignment_predicted_iff]
        constructor
        · intro predicted
          refine ⟨fun _ other otherReady => ?_, fun promotes => absurd promotes stays⟩
          obtain rfl : target = other := Option.some.inj (ready.symm.trans otherReady)
          exact predicted
        · intro predicted
          exact predicted.assigned assigns target ready
  · simp only [previewed, started, itself, source, Option.bind_some, issue]
    cases ready : runTarget site (change.apply prev) with
    | none =>
        refine iff_of_true (by simp) ⟨fun assigns => absurd assigns keeps, fun _ target target' => ?_⟩
        rw [ready] at target'
        contradiction
    | some target =>
        simp only [Option.bind_some, decide_true, Bool.true_and]
        cases pending : hasPendingRun site queue (some id) target.agentId with
        | true =>
            have taken : slotTaken queue id target.agentId = true :=
              slotTaken_of_pending (by simpa [hasPendingRun] using pending)
            refine iff_of_true (by simp [dispatches, rowMade, taken]) ⟨fun assigns => absurd assigns keeps, ?_⟩
            intro _ other otherReady free
            obtain rfl : target = other := Option.some.inj (ready.symm.trans otherReady)
            rw [pending] at free
            contradiction
        | false =>
            simp only [Bool.not_false, Bool.and_true]
            constructor
            · intro same
              refine ⟨fun assigns => absurd assigns keeps, fun _ other otherReady _ => ?_⟩
              obtain rfl : target = other := Option.some.inj (ready.symm.trans otherReady)
              have here := same target.agentId
              simp only [Option.ite_none_right_eq_some, and_true, and_assoc] at here
              exact here
            · intro predicted agentId
              have here := predicted.promoted promotes target ready pending
              simp only [Option.ite_none_right_eq_some, Option.some.injEq, here, and_assoc]
  · refine iff_of_true (by simp [previewed, started, itself, source]) ⟨fun assigns => absurd assigns keeps,
      fun promotes => absurd promotes stays⟩

end

end MulticaOS.IssueTriggers
