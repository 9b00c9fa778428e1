import MulticaOS.IssueTriggers.Agreement

/-!
A previewed create against the create: when the draft around the previewed fields is accepted, and
when the agent the preview names is the one the new issue starts.
-/

namespace MulticaOS.IssueTriggers

open TaskQueue (Db)

def DraftAccepted (site : Site) (caller : Caller) (issues : Issues.Table) (workspaceId newId : Id)
    (body : CreateIssueRequest) (assigneeId : Option Id) (fails : Bool) : Prop :=
  ∃ head tail table, createHead body = .ok head ∧ createTail site.parsers body = .ok tail ∧
    Issues.createIssue (site.directory caller) issues newId
      (createdIssue workspaceId body head assigneeId tail) fails = .ok table

def CreatePredicted (site : Site) (caller : Caller) (issues : Issues.Table) (queue : Db)
    (workspaceId newId : Id) (request : IssueTriggerPreviewRequest) (draft : CreateIssueRequest)
    (fails : Bool) (change : Change) : Prop :=
  (change.candidate workspaceId).status ≠ "backlog" →
    ∀ target, runTarget site (change.candidate workspaceId) = some target →
      requestCanInvoke site caller workspaceId target.agent = true →
        DraftAccepted site caller issues workspaceId newId (request.createBody draft)
            (change.candidate workspaceId).assigneeId fails ∧
          assignable site workspaceId (change.candidate workspaceId) target = true ∧
            rowMade (site.stamped caller newId) queue newId (change.candidate workspaceId) target true none =
              true

section

variable {site : Site} {caller : Caller} {issues : Issues.Table} {queue : Db} {workspaceId newId : Id}
  {request : IssueTriggerPreviewRequest} {draft : CreateIssueRequest} {fails : Bool} {change : Change}

theorem createHead_status {head : CreateHead} (decoded : decodeChange site.parsers request = .ok change)
    (accepted : createHead (request.createBody draft) = .ok head) :
    head.status = (change.candidate workspaceId).status := by
  obtain ⟨-, -, accepted⟩ := Issues.bind_ok accepted
  obtain ⟨-, -, accepted⟩ := Issues.bind_ok accepted
  obtain ⟨-, -, accepted⟩ := Issues.bind_ok accepted
  obtain ⟨stage, -, accepted⟩ := Issues.bind_ok accepted
  cases accepted
  have given := (decodeChange_cases decoded).1
  have filled : ∀ sent : Option String, (if (present sent).getD "" = "" then "todo" else (present sent).getD "") =
      (present sent).getD "todo" := by
    intro sent
    cases kept : present sent with
    | none => rfl
    | some status =>
        have stated : status ≠ "" := by simpa using (Option.filter_eq_some_iff.mp kept).2
        simp [stated]
  rw [Change.candidate, given]
  exact filled request.status

theorem assignee_validated (decoded : decodeChange site.parsers request = .ok change) :
    decodeGiven (request.createBody draft).assigneeId (Issues.decodeUUID site.parsers "assignee_id") =
        .ok (change.candidate workspaceId).assigneeId ∧
      (request.createBody draft).assigneeType = (change.candidate workspaceId).assigneeType ∧
      Issues.validateAssigneePair (site.directory caller) workspaceId
          (change.candidate workspaceId).assigneeType (change.candidate workspaceId).assigneeId =
        change.validate (site.directory caller) workspaceId := by
  obtain ⟨-, ⟨absent, unassigned⟩ | ⟨kind, text, assignee, given, parsed, assigned⟩⟩ :=
    decodeChange_cases decoded
  · refine ⟨?_, ?_, ?_⟩ <;>
      simp [IssueTriggerPreviewRequest.createBody, absent, unassigned, decodeGiven, Change.candidate,
        Change.validate, Issues.validateAssigneePair]
  · refine ⟨?_, ?_, ?_⟩ <;>
      simp [IssueTriggerPreviewRequest.createBody, given, assigned, decodeGiven, Issues.decodeUUID, parsed,
        Change.candidate, Change.validate]

theorem createStarted_congr {row candidate : Issues.Issue} (status : row.status = candidate.status)
    (typed : row.assigneeType = candidate.assigneeType) (assigned : row.assigneeId = candidate.assigneeId)
    (own : row.workspaceId = candidate.workspaceId) (id : Id) :
    createStarted site queue id row = createStarted site queue id candidate := by
  have target : runTarget site row = runTarget site candidate := by
    simp only [runTarget, typed, assigned, own]
  have made : rowMade site queue id row = rowMade site queue id candidate := by
    funext target gate actorUserId
    simp only [rowMade, attributed, resolveAttribution, attributionIssue, own]
  rw [createStarted, createStarted, status, target, made]

theorem createIssue_ok_iff (decoded : decodeChange site.parsers request = .ok change) (state : State) :
    createIssue site caller ⟨issues, queue, []⟩ workspaceId newId (request.createBody draft) fails =
        .ok state ↔
      change.accepted site caller workspaceId = true ∧ ∃ head tail table,
        createHead (request.createBody draft) = .ok head ∧
          createTail site.parsers (request.createBody draft) = .ok tail ∧
          Issues.createIssue (site.directory caller) issues newId
              (createdIssue workspaceId (request.createBody draft) head
                (change.candidate workspaceId).assigneeId tail) fails = .ok table ∧
            maybeEnqueueOnAssign (site.stamped caller newId) ⟨table, queue, []⟩ newId
              (createdIssue workspaceId (request.createBody draft) head
                (change.candidate workspaceId).assigneeId tail) = state := by
  obtain ⟨identified, typed, validated⟩ :=
    @assignee_validated site caller workspaceId request draft change decoded
  constructor
  · intro done
    obtain ⟨head, headed, done⟩ := Issues.bind_ok done
    obtain ⟨assigneeId, given, done⟩ := Issues.bind_ok done
    obtain rfl : (change.candidate workspaceId).assigneeId = assigneeId :=
      Except.ok.inj (identified.symm.trans given)
    obtain ⟨_, valid, done⟩ := Issues.bind_ok done
    obtain ⟨tail, tailed, done⟩ := Issues.bind_ok done
    obtain ⟨table, inserted, done⟩ := Issues.bind_ok done
    rw [typed, validated] at valid
    exact ⟨by rw [Change.accepted, valid], head, tail, table, headed, tailed, inserted, Except.ok.inj done⟩
  · rintro ⟨accepted, head, tail, table, headed, tailed, inserted, rfl⟩
    have valid : change.validate (site.directory caller) workspaceId = .ok () := by
      rcases validate_cases change (site.directory caller) workspaceId with ⟨refusal, refused⟩ | valid
      · rw [Change.accepted, refused] at accepted
        contradiction
      · exact valid
    rw [← typed] at validated
    simp only [createIssue, headed, identified, validated, valid, tailed, inserted, bind, Except.bind]

theorem createIssue_runs (unique : TaskQueue.PendingUnique queue.tasks)
    (decoded : decodeChange site.parsers request = .ok change) (id agentId : Id) :
    (id, agentId) ∈ enqueuedRuns
        (createIssue site caller ⟨issues, queue, []⟩ workspaceId newId (request.createBody draft) fails) ↔
      id = newId ∧
        (DraftAccepted site caller issues workspaceId newId (request.createBody draft)
            (change.candidate workspaceId).assigneeId fails ∧
          change.accepted site caller workspaceId = true) ∧
            createStarted (site.stamped caller newId) queue newId (change.candidate workspaceId) =
              some agentId := by
  cases done : createIssue site caller ⟨issues, queue, []⟩ workspaceId newId (request.createBody draft)
      fails with
  | error refusal =>
      refine iff_of_false List.not_mem_nil ?_
      rintro ⟨-, ⟨⟨head, tail, table, headed, tailed, inserted⟩, accepted⟩, -⟩
      rw [(createIssue_ok_iff decoded _).mpr
        ⟨accepted, head, tail, table, headed, tailed, inserted, rfl⟩] at done
      contradiction
  | ok state =>
      obtain ⟨accepted, head, tail, table, headed, tailed, inserted, rfl⟩ :=
        (createIssue_ok_iff decoded state).mp done
      have typed := (@assignee_validated site caller workspaceId request draft change decoded).2.1
      have same := @createStarted_congr (site.stamped caller newId) queue
        (createdIssue workspaceId (request.createBody draft) head
          (change.candidate workspaceId).assigneeId tail) (change.candidate workspaceId)
        (createHead_status decoded headed) typed rfl rfl newId
      have passes : DraftAccepted site caller issues workspaceId newId (request.createBody draft)
          (change.candidate workspaceId).assigneeId fails := ⟨head, tail, table, headed, tailed, inserted⟩
      refine Iff.trans ?_ (and_congr_right fun _ => (and_iff_right ⟨passes, accepted⟩).symm)
      rw [← same, enqueuedRuns]
      rcases @maybeEnqueueOnAssign_cases (site.stamped caller newId) ⟨table, queue, []⟩ newId
        (createdIssue workspaceId (request.createBody draft) head
          (change.candidate workspaceId).assigneeId tail) unique with
        ⟨starting, starts, next, stored, -⟩ | ⟨idle, unchanged⟩
      · rw [stored, starts]
        simp only [List.nil_append, List.mem_singleton, Prod.mk.injEq, Option.some.injEq]
        exact and_congr_right fun _ => eq_comm
      · rw [unchanged, idle]
        simp

theorem create_source (change : Change) (running : Bool) :
    runSource (change.createInput workspaceId) running =
      if (change.candidate workspaceId).status = "backlog" then none else some .assign := rfl

theorem candidate_accepted_iff {target : Target}
    (ready : runTarget site (change.candidate workspaceId) = some target) :
    change.accepted site caller workspaceId = true ↔
      assignable site workspaceId (change.candidate workspaceId) target = true ∧
        requestCanInvoke site caller workspaceId target.agent = true := by
  cases given : change.assignee with
  | none =>
      have unassigned : (change.candidate workspaceId).assigneeType = none := by
        rw [Change.candidate, given]
        rfl
      obtain ⟨-, -, -, ⟨-, typed, -⟩ | ⟨-, typed, -⟩⟩ := runTarget_ready ready <;>
        (rw [unassigned] at typed; contradiction)
  | some pair =>
      obtain ⟨kind, assigneeId⟩ := pair
      exact accepted_iff given (by simp [Change.candidate, given]) (by simp [Change.candidate, given]) rfl ready

theorem create_predicted_iff :
    (∀ agentId, previewed site caller queue workspaceId (change.createInput workspaceId) = some agentId ↔
        (DraftAccepted site caller issues workspaceId newId (request.createBody draft)
            (change.candidate workspaceId).assigneeId fails ∧
          change.accepted site caller workspaceId = true) ∧
            createStarted (site.stamped caller newId) queue newId (change.candidate workspaceId) =
              some agentId) ↔
      CreatePredicted site caller issues queue workspaceId newId request draft fails change := by
  have issue : (change.createInput workspaceId).issue = change.candidate workspaceId := rfl
  have target : runTarget (site.stamped caller newId) (change.candidate workspaceId) =
      runTarget site (change.candidate workspaceId) := rfl
  rw [CreatePredicted, createStarted, target]
  simp only [previewed, create_source, issue]
  by_cases parked : (change.candidate workspaceId).status = "backlog"
  · simp [parked]
  · simp only [parked, if_false, Option.bind_some, reduceCtorEq, decide_false, Bool.false_and, Bool.not_false,
      Bool.and_true, ne_eq, not_false_eq_true, true_implies]
    cases ready : runTarget site (change.candidate workspaceId) with
    | none => simp
    | some target =>
        have valid : change.accepted site caller workspaceId = true ↔
            assignable site workspaceId (change.candidate workspaceId) target = true ∧
              requestCanInvoke site caller workspaceId target.agent = true := candidate_accepted_iff ready
        simp only [Option.bind_some, valid]
        rw [assignment_predicted_iff]
        simp

end

end MulticaOS.IssueTriggers
