import MulticaOS.IssueTriggers.Waking

/-!
The body a preview stands for, read back as a change of each listed issue, and the loop of a batch
over the list: every issue is written once as far as runs go, and no round disturbs another issue.
-/

namespace MulticaOS.IssueTriggers

open TaskQueue (Db)

def Change.validate (change : Change) (directory : Issues.Directory) (workspaceId : Id) :
    Except Issues.Refusal Unit :=
  match change.assignee with
  | none => .ok ()
  | some (kind, id) => Issues.validateAssigneePair directory workspaceId (some kind) (some id)

def Change.accepted (change : Change) (site : Site) (caller : Caller) (workspaceId : Id) : Bool :=
  match change.validate (site.directory caller) workspaceId with
  | .ok _ => true
  | .error _ => false

theorem validate_cases (change : Change) (directory : Issues.Directory) (workspaceId : Id) :
    (∃ refusal, change.validate directory workspaceId = .error refusal) ∨
      change.validate directory workspaceId = .ok () := by
  cases change.validate directory workspaceId with
  | error refusal => exact .inl ⟨refusal, rfl⟩
  | ok _ => exact .inr rfl

def Change.params (change : Change) (prev : Issues.Issue) : Issues.UpdateIssueParams where
  title := none
  description := none
  status := change.status
  priority := none
  position := none
  assigneeType := (change.assignee.map Prod.fst).or prev.assigneeType
  assigneeId := (change.assignee.map Prod.snd).or prev.assigneeId
  startDate := prev.startDate
  dueDate := prev.dueDate
  parentIssueId := prev.parentIssueId
  projectId := prev.projectId
  stage := prev.stage

theorem update_params (change : Change) (prev : Issues.Issue) :
    prev.update (change.params prev) = change.apply prev := by
  simp [Issues.Issue.update, Change.params, Change.apply]

def Change.completed (change : Change) (id : Id) (prev : Issues.Issue) : Option ChildDone.Issue :=
  if (change.input id prev).statusChanged && prev.parentIssueId.isSome &&
      !isTerminalChildStatus prev.status && isTerminalChildStatus (change.apply prev).status then
    some (childIssue id (change.apply prev))
  else none

section

variable {site : Site} {caller : Caller} {workspaceId : Id} {request : IssueTriggerPreviewRequest}
  {change : Change}

theorem decodeChange_cases (decoded : decodeChange site.parsers request = .ok change) :
    change.status = present request.status ∧
      ((request.assignee = none ∧ change.assignee = none) ∨
        ∃ kind text id, request.assignee = some (kind, text) ∧ site.parsers.parseUUID text = some id ∧
          change.assignee = some (kind, id)) := by
  rw [decodeChange] at decoded
  split at decoded
  · rename_i absent
    cases decoded
    exact ⟨rfl, .inl ⟨absent, rfl⟩⟩
  · rename_i kind text given
    split at decoded
    · contradiction
    · rename_i id parsed
      cases decoded
      exact ⟨rfl, .inr ⟨kind, text, id, given, parsed, rfl⟩⟩

theorem updateParams_body (decoded : decodeChange site.parsers request = .ok change)
    (directory : Issues.Directory) (issues : Issues.Table) (id : Id) (prev : Issues.Issue) :
    Issues.updateParams site.parsers directory issues id prev request.updateBody =
      (change.validate directory prev.workspaceId).map fun _ => change.params prev := by
  obtain ⟨status, ⟨absent, unassigned⟩ | ⟨kind, text, assignee, given, parsed, assigned⟩⟩ :=
    decodeChange_cases decoded
  · simp [Issues.updateParams, IssueTriggerPreviewRequest.updateBody, Issues.emptyBody, Issues.overlay, absent,
      Change.validate, Change.params, unassigned, status, bind, Except.bind, Except.map]
  · simp only [Issues.updateParams, IssueTriggerPreviewRequest.updateBody, Issues.emptyBody, Issues.overlay,
      given, Option.map_some, Option.getD_some, Issues.decodeUUID, parsed, bind, Except.bind,
      Option.isSome_some, Bool.or_self, if_true, Change.validate, assigned]
    cases Issues.validateAssigneePair directory prev.workspaceId (some kind) (some assignee) with
    | error refusal => rfl
    | ok _ => simp [Except.map, Change.params, assigned, status]

theorem publishBatch_body (decoded : decodeChange site.parsers request = .ok change) (id : Id)
    (prev : Issues.Issue) :
    (Issues.publishBatch request.updateBody prev (change.apply prev)).trigger =
        (change.input id prev).toIssueTriggerInput ∧
      (Issues.publishBatch request.updateBody prev (change.apply prev)).flags.statusChanged =
        (change.input id prev).statusChanged := by
  obtain ⟨status, ⟨absent, unassigned⟩ | ⟨kind, text, assignee, given, -, assigned⟩⟩ :=
    decodeChange_cases decoded
  · simp only [Issues.publishBatch, Issues.changeFlags, IssueTriggerPreviewRequest.updateBody, absent,
      Change.input, Change.apply, unassigned, ← status]
    cases change.status <;> simp
  · simp only [Issues.publishBatch, Issues.changeFlags, IssueTriggerPreviewRequest.updateBody, given,
      Change.input, Change.apply, assigned, ← status]
    cases change.status <;> simp <;> exact congrArg₂ or decide_not decide_not

theorem completedChild_body (decoded : decodeChange site.parsers request = .ok change) (id : Id)
    (prev : Issues.Issue) :
    completedChild id (Issues.publishBatch request.updateBody prev (change.apply prev)) =
      change.completed id prev := by
  obtain ⟨trigger, flag⟩ := publishBatch_body decoded id prev
  rw [completedChild, flag, trigger, Change.completed]
  rfl

theorem batchRound_eq (decoded : decodeChange site.parsers request = .ok change) (batch : Batch)
    (issueId : String) :
    batchRound site caller workspaceId request.updateBody batch issueId =
      match site.parsers.parseUUID issueId with
      | none => batch
      | some id =>
          match Issues.getIssueInWorkspace batch.state.issues id workspaceId with
          | none => batch
          | some prev =>
              if change.accepted site caller workspaceId then
                { state := startRun site caller
                    { batch.state with
                      issues := Function.update batch.state.issues id (some (change.apply prev)) }
                    id (change.input id prev).toIssueTriggerInput
                  completed := batch.completed ++ (change.completed id prev).toList }
              else batch := by
  simp only [batchRound, Issues.batchUpdateIssuePublished, Issues.batchUpdateIssue]
  cases site.parsers.parseUUID issueId with
  | none => rfl
  | some id =>
      dsimp only
      cases found : Issues.getIssueInWorkspace batch.state.issues id workspaceId with
      | none => rfl
      | some prev =>
          obtain ⟨stored, own⟩ := Option.filter_eq_some_iff.mp found
          obtain rfl : prev.workspaceId = workspaceId := by simpa using own
          simp only [updateParams_body decoded, Change.accepted]
          rcases validate_cases change (site.directory caller) prev.workspaceId with ⟨refusal, refused⟩ | valid
          · simp [refused, Except.map]
          · simp [valid, Except.map, update_params, completedChild_body decoded,
              (publishBatch_body decoded id prev).1, Issues.store, stored]

theorem apply_apply (change : Change) (prev : Issues.Issue) :
    change.apply (change.apply prev) = change.apply prev := by
  cases assigned : change.assignee <;> cases given : change.status <;>
    simp [Change.apply, assigned, given]

theorem input_apply (change : Change) (id : Id) (prev : Issues.Issue) :
    (change.input id (change.apply prev)).assigneeChanged = false ∧
      (change.input id (change.apply prev)).statusChanged = false := by
  cases assigned : change.assignee <;> cases given : change.status <;>
    simp [Change.input, Change.apply, assigned, given]

theorem started_apply (site : Site) (caller : Caller) (queue : Db) (change : Change) (id : Id)
    (prev : Issues.Issue) : started site caller queue id (change.input id (change.apply prev)) = none := by
  obtain ⟨assignee, status⟩ := input_apply change id prev
  have create : (change.input id (change.apply prev)).isCreate = false := rfl
  simp [started, runSource, assignee, status, create]

theorem completed_apply (change : Change) (id : Id) (prev : Issues.Issue) :
    change.completed id (change.apply prev) = none := by
  simp [Change.completed, (input_apply change id prev).2]

end

structure Swept (site : Site) (caller : Caller) (workspaceId : Id) (change : Change) (issues : Issues.Table)
    (queue : Db) (issueIds : List String) (batch : Batch) : Prop where
  unique : TaskQueue.PendingUnique batch.state.queue.tasks
  written : ∀ id prev, listed site issues workspaceId issueIds id prev →
    batch.state.issues id = some (change.apply prev)
  untouched : ∀ id, (∀ prev, ¬listed site issues workspaceId issueIds id prev) →
    batch.state.issues id = issues id
  runs : ∀ id agentId, (id, agentId) ∈ batch.state.runs ↔ ∃ prev,
    listed site issues workspaceId issueIds id prev ∧
      started site caller queue id (change.input id prev) = some agentId
  pending : ∀ id, (∀ agentId, (id, agentId) ∉ batch.state.runs) → ∀ agentId headSha,
    hasPendingTaskForIssueAndAgent batch.state.queue id agentId headSha =
      hasPendingTaskForIssueAndAgent queue id agentId headSha
  completed : ∀ child, child ∈ batch.completed ↔ ∃ id prev,
    listed site issues workspaceId issueIds id prev ∧ change.completed id prev = some child

section

variable {site : Site} {caller : Caller} {workspaceId : Id} {change : Change} {issues : Issues.Table}
  {queue : Db} {issueIds : List String} {batch : Batch}

theorem listed_append {rawId : String} {id : Id} {prev : Issues.Issue} :
    listed site issues workspaceId (issueIds ++ [rawId]) id prev ↔
      listed site issues workspaceId issueIds id prev ∨
        (site.parsers.parseUUID rawId = some id ∧
          Issues.getIssueInWorkspace issues id workspaceId = some prev) := by
  simp only [listed, List.mem_append, List.mem_singleton, or_and_right, exists_or, exists_eq_left]

theorem listed_unique {id : Id} {left right : Issues.Issue}
    (first : listed site issues workspaceId issueIds id left)
    (second : listed site issues workspaceId issueIds id right) : left = right :=
  Option.some.inj (first.2.symm.trans second.2)

theorem Swept.same (swept : Swept site caller workspaceId change issues queue issueIds batch)
    {rawId : String} (nothing : ∀ id prev, site.parsers.parseUUID rawId = some id →
      Issues.getIssueInWorkspace issues id workspaceId = some prev →
        listed site issues workspaceId issueIds id prev) :
    Swept site caller workspaceId change issues queue (issueIds ++ [rawId]) batch := by
  have alike : ∀ id prev, listed site issues workspaceId (issueIds ++ [rawId]) id prev ↔
      listed site issues workspaceId issueIds id prev := by
    intro id prev
    rw [listed_append]
    exact ⟨fun either => either.elim (fun before => before) fun ⟨parsed, found⟩ => nothing id prev parsed found, .inl⟩
  obtain ⟨unique, written, untouched, runs, pending, completed⟩ := swept
  refine ⟨unique, ?_, ?_, ?_, pending, ?_⟩
  · simpa only [alike] using written
  · simpa only [alike] using untouched
  · simpa only [alike] using runs
  · simpa only [alike] using completed

theorem Swept.advance (swept : Swept site caller workspaceId change issues queue issueIds batch)
    {rawId : String} {id : Id} {prev : Issues.Issue} {next : State}
    (parsed : site.parsers.parseUUID rawId = some id)
    (found : Issues.getIssueInWorkspace issues id workspaceId = some prev)
    (fresh : ∀ row, ¬listed site issues workspaceId issueIds id row)
    (step : (∃ agentId, started site caller batch.state.queue id (change.input id prev) = some agentId ∧
        Started { batch.state with issues := Function.update batch.state.issues id (some (change.apply prev)) }
          next id agentId) ∨
      (started site caller batch.state.queue id (change.input id prev) = none ∧
        next = { batch.state with
          issues := Function.update batch.state.issues id (some (change.apply prev)) })) :
    Swept site caller workspaceId change issues queue (issueIds ++ [rawId])
      ⟨next, batch.completed ++ (change.completed id prev).toList⟩ := by
  have unstarted : ∀ agentId, (id, agentId) ∉ batch.state.runs := by
    intro agentId begun
    obtain ⟨row, before, -⟩ := (swept.runs id agentId).mp begun
    exact fresh row before
  have sameStart : started site caller batch.state.queue id (change.input id prev) =
      started site caller queue id (change.input id prev) :=
    started_congr fun agentId => swept.pending id unstarted agentId none
  rw [sameStart] at step
  -- what is listed now: what was, and this issue
  have now : ∀ other row, listed site issues workspaceId (issueIds ++ [rawId]) other row ↔
      listed site issues workspaceId issueIds other row ∨ (other = id ∧ row = prev) := by
    intro other row
    rw [listed_append]
    refine or_congr_right ⟨?_, ?_⟩
    · rintro ⟨parsedOther, foundOther⟩
      obtain rfl : id = other := Option.some.inj (parsed.symm.trans parsedOther)
      exact ⟨rfl, Option.some.inj (foundOther.symm.trans found)⟩
    · rintro ⟨rfl, rfl⟩
      exact ⟨parsed, found⟩
  have written : ∀ other row, listed site issues workspaceId (issueIds ++ [rawId]) other row →
      Function.update batch.state.issues id (some (change.apply prev)) other = some (change.apply row) := by
    intro other row isListed
    rcases (now other row).mp isListed with before | ⟨rfl, rfl⟩
    · have different : other ≠ id := fun same => fresh row (same ▸ before)
      rw [Function.update_of_ne different]
      exact swept.written other row before
    · rw [Function.update_self]
  have untouched : ∀ other, (∀ row, ¬listed site issues workspaceId (issueIds ++ [rawId]) other row) →
      Function.update batch.state.issues id (some (change.apply prev)) other = issues other := by
    intro other unlisted
    have different : other ≠ id := fun same => unlisted prev ((now other prev).mpr (.inr ⟨same, rfl⟩))
    rw [Function.update_of_ne different]
    exact swept.untouched other fun row before => unlisted row ((now other row).mpr (.inl before))
  have completed : ∀ child, child ∈ batch.completed ++ (change.completed id prev).toList ↔
      ∃ other row, listed site issues workspaceId (issueIds ++ [rawId]) other row ∧
        change.completed other row = some child := by
    intro child
    simp only [List.mem_append, swept.completed child, Option.mem_toList, now, or_and_right, exists_or]
    refine or_congr_right ⟨fun closes => ⟨id, prev, ⟨rfl, rfl⟩, closes⟩, ?_⟩
    rintro ⟨other, row, ⟨rfl, rfl⟩, closes⟩
    exact closes
  rcases step with ⟨agentId, begun, queueAfter, rfl, grown⟩ | ⟨idle, rfl⟩
  · refine ⟨grown.unique, written, untouched, ?_, ?_, completed⟩
    · intro other otherAgent
      rw [List.mem_append, List.mem_singleton, Prod.mk.injEq, swept.runs other otherAgent]
      simp only [now, or_and_right, exists_or]
      refine or_congr_right ⟨?_, ?_⟩
      · rintro ⟨rfl, rfl⟩
        exact ⟨prev, ⟨rfl, rfl⟩, begun⟩
      · rintro ⟨row, ⟨rfl, rfl⟩, starts⟩
        exact ⟨rfl, Option.some.inj (starts.symm.trans begun)⟩
    · intro other quiet otherAgent headSha
      simp only [List.mem_append, not_or] at quiet
      have different : other ≠ id := by
        rintro rfl
        exact (quiet agentId).2 (List.mem_singleton.mpr rfl)
      rw [← swept.pending other (fun agent => (quiet agent).1) otherAgent headSha]
      exact grown.kept other otherAgent headSha different
  · refine ⟨swept.unique, written, untouched, ?_, swept.pending, completed⟩
    intro other otherAgent
    rw [swept.runs other otherAgent]
    simp only [now, or_and_right, exists_or]
    refine ⟨.inl, ?_⟩
    rintro (already | ⟨row, ⟨rfl, rfl⟩, starts⟩)
    · exact already
    · rw [idle] at starts
      contradiction

theorem swept_round {request : IssueTriggerPreviewRequest}
    (decoded : decodeChange site.parsers request = .ok change)
    (accepted : change.accepted site caller workspaceId = true) (rawId : String)
    (swept : Swept site caller workspaceId change issues queue issueIds batch) :
    Swept site caller workspaceId change issues queue (issueIds ++ [rawId])
      (batchRound site caller workspaceId request.updateBody batch rawId) := by
  rw [batchRound_eq decoded]
  cases parsed : site.parsers.parseUUID rawId with
  | none =>
      refine swept.same fun id prev parsedOther _ => ?_
      rw [parsed] at parsedOther
      contradiction
  | some id =>
      dsimp only
      by_cases known : ∃ row, listed site issues workspaceId issueIds id row
      · -- a second round for the issue
        obtain ⟨row, before⟩ := known
        have again : Swept site caller workspaceId change issues queue (issueIds ++ [rawId]) batch := by
          refine swept.same fun other prev parsedOther found => ?_
          obtain rfl : id = other := Option.some.inj (parsed.symm.trans parsedOther)
          exact ⟨before.1, found⟩
        have stored := swept.written id row before
        obtain ⟨-, own⟩ := Option.filter_eq_some_iff.mp before.2
        have here : Issues.getIssueInWorkspace batch.state.issues id workspaceId = some (change.apply row) := by
          rw [Issues.getIssueInWorkspace, stored]
          exact Option.filter_some_pos own
        have table : Function.update batch.state.issues id (some (change.apply (change.apply row))) =
            batch.state.issues := by
          rw [apply_apply, ← stored, Function.update_eq_self]
        simp only [here, accepted, if_true, table, completed_apply, Option.toList_none, List.append_nil]
        rcases @startRun_cases site caller batch.state id
          (change.input id (change.apply row)).toIssueTriggerInput swept.unique with ⟨agentId, begins, -⟩ | ⟨-, same⟩
        · have idle := started_apply site caller batch.state.queue change id row
          rw [show started site caller batch.state.queue id (change.input id (change.apply row)) = some agentId
            from begins] at idle
          contradiction
        · rw [same]
          exact again
      · have fresh : ∀ row, ¬listed site issues workspaceId issueIds id row := fun row before => known ⟨row, before⟩
        have stored := swept.untouched id fresh
        have same : Issues.getIssueInWorkspace batch.state.issues id workspaceId =
            Issues.getIssueInWorkspace issues id workspaceId := by
          rw [Issues.getIssueInWorkspace, stored, Issues.getIssueInWorkspace]
        rw [same]
        cases found : Issues.getIssueInWorkspace issues id workspaceId with
        | none =>
            refine swept.same fun other prev parsedOther foundOther => ?_
            obtain rfl : id = other := Option.some.inj (parsed.symm.trans parsedOther)
            rw [found] at foundOther
            contradiction
        | some prev =>
            simp only [accepted, if_true]
            refine swept.advance parsed found fresh ?_
            exact @startRun_cases site caller
              { batch.state with issues := Function.update batch.state.issues id (some (change.apply prev)) } id
              (change.input id prev).toIssueTriggerInput swept.unique

theorem swept_start (unique : TaskQueue.PendingUnique queue.tasks) :
    Swept site caller workspaceId change issues queue [] ⟨⟨issues, queue, []⟩, []⟩ := by
  have nothing : ∀ id prev, ¬listed site issues workspaceId [] id prev := fun id prev isListed => by
    obtain ⟨⟨rawId, member, -⟩, -⟩ := isListed
    contradiction
  refine ⟨unique, ?_, fun _ _ => rfl, ?_, fun _ _ _ _ => rfl, ?_⟩
  · intro id prev isListed
    exact absurd isListed (nothing id prev)
  · intro id agentId
    simp [nothing]
  · intro child
    simp [nothing]

theorem swept_batch {request : IssueTriggerPreviewRequest}
    (unique : TaskQueue.PendingUnique queue.tasks)
    (decoded : decodeChange site.parsers request = .ok change)
    (accepted : change.accepted site caller workspaceId = true) (issueIds : List String) :
    Swept site caller workspaceId change issues queue issueIds
      (issueIds.foldl (batchRound site caller workspaceId request.updateBody) ⟨⟨issues, queue, []⟩, []⟩) := by
  induction issueIds using List.reverseRecOn with
  | nil => exact swept_start unique
  | append_singleton issueIds rawId ih =>
      rw [List.foldl_append, List.foldl_cons, List.foldl_nil]
      exact swept_round decoded accepted rawId ih

theorem batch_refused {request : IssueTriggerPreviewRequest}
    (decoded : decodeChange site.parsers request = .ok change)
    (refused : change.accepted site caller workspaceId = false) (issueIds : List String) (batch : Batch) :
    issueIds.foldl (batchRound site caller workspaceId request.updateBody) batch = batch := by
  induction issueIds with
  | nil => rfl
  | cons rawId rest ih =>
      have round : batchRound site caller workspaceId request.updateBody batch rawId = batch := by
        rw [batchRound_eq decoded]
        split
        · rfl
        · split
          · rfl
          · rw [if_neg (by simp [refused])]
      rw [List.foldl_cons, round]
      exact ih

end

end MulticaOS.IssueTriggers
