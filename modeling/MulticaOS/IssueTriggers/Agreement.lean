import MulticaOS.IssueTriggers.Predictions

/-!
A previewed request against its write: the pairs a preview reports and the pairs the write enqueues,
and exactly when they are the same.
-/

namespace MulticaOS.IssueTriggers

open TaskQueue (Db)

def enqueuedRuns : Except Issues.Refusal State → List (Id × Id)
  | .ok state => state.runs
  | .error _ => []

def Change.writes (change : Change) (site : Site) (issues : Issues.Table) (workspaceId : Id)
    (issueIds : List String) : Issues.Table :=
  fun id =>
    if issueIds.any fun rawId => site.parsers.parseUUID rawId = some id then
      (issues id).map fun issue => if issue.workspaceId = workspaceId then change.apply issue else issue
    else issues id

def Woken (site : Site) (issues : Issues.Table) (queue : Db) (workspaceId : Id) (change : Change)
    (issueIds : List String) (parentId agentId : Id) : Prop :=
  ∃ id prev child, listed site issues workspaceId issueIds id prev ∧ change.completed id prev = some child ∧
    ChildDone.closedParent (childQueries site (change.writes site issues workspaceId issueIds)) child =
      some parentId ∧
    wakes site (change.writes site issues workspaceId issueIds) queue parentId = some agentId

/-- What makes the preview of a list of issues right: the preview of each, and that no parent is
woken besides. -/
structure ListPredicted (site : Site) (caller : Caller) (issues : Issues.Table) (queue : Db)
    (workspaceId : Id) (change : Change) (issueIds : List String) : Prop where
  each : ∀ id prev, listed site issues workspaceId issueIds id prev →
    IssuePredicted site caller queue workspaceId change id prev
  nobodyWoken : change.statusValid = true → change.accepted site caller workspaceId = true →
    ∀ parentId agentId, ¬Woken site issues queue workspaceId change issueIds parentId agentId

section

variable {site : Site} {caller : Caller} {issues : Issues.Table} {queue : Db} {workspaceId : Id}
  {change : Change} {issueIds : List String}

theorem listed_own {id : Id} {prev : Issues.Issue}
    (isListed : listed site issues workspaceId issueIds id prev) :
    issues id = some prev ∧ prev.workspaceId = workspaceId := by
  obtain ⟨stored, own⟩ := Option.filter_eq_some_iff.mp isListed.2
  exact ⟨stored, by simpa using own⟩

theorem writes_listed {id : Id} {prev : Issues.Issue}
    (isListed : listed site issues workspaceId issueIds id prev) :
    change.writes site issues workspaceId issueIds id = some (change.apply prev) := by
  obtain ⟨stored, own⟩ := listed_own isListed
  obtain ⟨⟨rawId, member, parsed⟩, -⟩ := isListed
  have inList : (issueIds.any fun rawId => site.parsers.parseUUID rawId = some id) = true :=
    List.any_eq_true.mpr ⟨rawId, member, decide_eq_true parsed⟩
  simp [Change.writes, inList, stored, own]

theorem writes_unlisted {id : Id} (unlisted : ∀ prev, ¬listed site issues workspaceId issueIds id prev) :
    change.writes site issues workspaceId issueIds id = issues id := by
  rw [Change.writes]
  split
  · rename_i inList
    obtain ⟨rawId, member, parsed⟩ := List.any_eq_true.mp inList
    cases stored : issues id with
    | none => rfl
    | some issue =>
        have foreign : issue.workspaceId ≠ workspaceId := fun own =>
          unlisted issue ⟨⟨rawId, member, of_decide_eq_true parsed⟩, by
            rw [Issues.getIssueInWorkspace, stored]
            exact Option.filter_some_pos (decide_eq_true own)⟩
        simp [foreign]
  · rfl

theorem Swept.table {batch : Batch}
    (swept : Swept site caller workspaceId change issues queue issueIds batch) :
    batch.state.issues = change.writes site issues workspaceId issueIds := by
  funext id
  by_cases known : ∃ prev, listed site issues workspaceId issueIds id prev
  · obtain ⟨prev, isListed⟩ := known
    rw [swept.written id prev isListed, writes_listed isListed]
  · have unlisted : ∀ prev, ¬listed site issues workspaceId issueIds id prev := fun prev isListed =>
      known ⟨prev, isListed⟩
    rw [swept.untouched id unlisted, writes_unlisted unlisted]

theorem completed_closes {id : Id} {prev : Issues.Issue} {child : ChildDone.Issue}
    (closes : change.completed id prev = some child) :
    ∃ status, change.status = some status ∧ isTerminalChildStatus status = true := by
  rw [Change.completed] at closes
  split at closes
  · rename_i guards
    simp only [Bool.and_eq_true] at guards
    obtain ⟨⟨⟨changed, -⟩, -⟩, terminal⟩ := guards
    cases given : change.status with
    | none => simp [Change.input, given] at changed
    | some status => exact ⟨status, rfl, by simpa [Change.apply, given] using terminal⟩
  · contradiction

theorem notified_open {parent : ChildDone.Issue} (notified : ChildDone.parentNotified parent = true) :
    ChildDone.isTerminalChildStatus parent.status = false := by
  simp only [ChildDone.parentNotified, Bool.and_eq_true, decide_eq_true_eq] at notified
  simp [ChildDone.isTerminalChildStatus, notified.1.1.1, notified.1.1.2]

theorem closed_unlisted {id parentId : Id} {prev : Issues.Issue} {child : ChildDone.Issue}
    (closes : change.completed id prev = some child)
    (parent : ChildDone.closedParent (childQueries site (change.writes site issues workspaceId issueIds)) child =
      some parentId) (row : Issues.Issue) : ¬listed site issues workspaceId issueIds parentId row := by
  intro isListed
  obtain ⟨status, given, terminal⟩ := completed_closes closes
  obtain ⟨linkedId, parentRow, children, -, read, -, notified, -, same⟩ :=
    ChildDone.closedParent_eq_some.mp parent
  obtain ⟨stored, storedAt, rfl⟩ := Option.map_eq_some_iff.mp read
  obtain rfl : linkedId = parentId := same
  rw [writes_listed isListed] at storedAt
  cases storedAt
  have isOpen : isTerminalChildStatus (change.apply row).status = false := notified_open notified
  rw [Change.apply, given] at isOpen
  rw [Option.getD_some, terminal] at isOpen
  contradiction

theorem wakes_congr {before after : Db} {id : Id}
    (same : ∀ agentId, slotTaken after id agentId = slotTaken before id agentId) (table : Issues.Table) :
    wakes site table after id = wakes site table before id := by
  simp only [wakes, same]

def Outcome (site : Site) (caller : Caller) (issues : Issues.Table) (queue : Db) (workspaceId : Id)
    (change : Change) (issueIds : List String) (runs : List (Id × Id)) : Prop :=
  ((∀ parentId agentId, ¬Woken site issues queue workspaceId change issueIds parentId agentId) ∧
    ∀ id agentId, (id, agentId) ∈ runs ↔ ∃ prev, listed site issues workspaceId issueIds id prev ∧
      started site caller queue id (change.input id prev) = some agentId) ∨
  ∃ parentId agentId, Woken site issues queue workspaceId change issueIds parentId agentId ∧
    (parentId, agentId) ∈ runs

def Written (site : Site) (caller : Caller) (issues : Issues.Table) (queue : Db) (workspaceId : Id)
    (change : Change) (issueIds : List String) (runs : List (Id × Id)) : Prop :=
  (change.statusValid = true ∧ change.accepted site caller workspaceId = true ∧
      Outcome site caller issues queue workspaceId change issueIds runs) ∨
    (¬(change.statusValid = true ∧ change.accepted site caller workspaceId = true) ∧ runs = [])

theorem outcome_of_notices {batch : Batch} {notices : List ChildDone.Notice}
    (swept : Swept site caller workspaceId change issues queue issueIds batch)
    (notified : ∀ parentId, (∃ notice ∈ notices, notice.parentId = parentId) ↔ ∃ child ∈ batch.completed,
      ChildDone.closedParent (childQueries site batch.state.issues) child = some parentId) :
    Outcome site caller issues queue workspaceId change issueIds
      (postNotices site batch.state notices).runs := by
  rw [swept.table] at notified
  -- the parents of the notices have no run yet, so their slots are as they were
  have parents : ∀ notice ∈ notices, ∃ id prev child, listed site issues workspaceId issueIds id prev ∧
      change.completed id prev = some child ∧
        ChildDone.closedParent (childQueries site (change.writes site issues workspaceId issueIds)) child =
          some notice.parentId ∧
        wakes site batch.state.issues batch.state.queue notice.parentId =
          wakes site (change.writes site issues workspaceId issueIds) queue notice.parentId := by
    intro notice member
    obtain ⟨child, closed, parent⟩ := (notified notice.parentId).mp ⟨notice, member, rfl⟩
    obtain ⟨id, prev, isListed, closes⟩ := (swept.completed child).mp closed
    refine ⟨id, prev, child, isListed, closes, parent, ?_⟩
    have quiet : ∀ agentId, (notice.parentId, agentId) ∉ batch.state.runs := by
      intro agentId begun
      obtain ⟨row, parentListed, -⟩ := (swept.runs notice.parentId agentId).mp begun
      exact closed_unlisted closes parent row parentListed
    rw [swept.table]
    exact wakes_congr (fun agentId => swept.pending notice.parentId quiet agentId none) _
  rcases @postNotices_cases site notices batch.state swept.unique with ⟨asleep, same⟩ |
    ⟨notice, member, agentId, more, woken, runs⟩
  · rw [same]
    refine .inl ⟨?_, swept.runs⟩
    rintro parentId agentId ⟨id, prev, child, isListed, closes, parent, woken⟩
    obtain ⟨notice, member, rfl⟩ := (notified parentId).mpr
      ⟨child, (swept.completed child).mpr ⟨id, prev, isListed, closes⟩, parent⟩
    obtain ⟨-, -, -, -, -, -, sameWakes⟩ := parents notice member
    rw [← sameWakes, asleep notice member] at woken
    contradiction
  · obtain ⟨id, prev, child, isListed, closes, parent, sameWakes⟩ := parents notice member
    refine .inr ⟨notice.parentId, agentId, ⟨id, prev, child, isListed, closes, parent, sameWakes ▸ woken⟩, ?_⟩
    rw [runs]
    simp

theorem outcome_of_idle (unlisted : ∀ id prev, listed site issues workspaceId issueIds id prev →
      change.completed id prev = none ∧ started site caller queue id (change.input id prev) = none) :
    Outcome site caller issues queue workspaceId change issueIds [] := by
  refine .inl ⟨?_, fun id agentId => iff_of_false List.not_mem_nil ?_⟩
  · rintro parentId agentId ⟨id, prev, child, isListed, closes, -⟩
    rw [(unlisted id prev isListed).1] at closes
    contradiction
  · rintro ⟨prev, isListed, starts⟩
    rw [(unlisted id prev isListed).2] at starts
    contradiction

theorem written_nothing (unlisted : ∀ id prev, ¬listed site issues workspaceId issueIds id prev) :
    Written site caller issues queue workspaceId change issueIds [] := by
  by_cases valid : change.statusValid = true ∧ change.accepted site caller workspaceId = true
  · exact .inl ⟨valid.1, valid.2,
      outcome_of_idle fun id prev isListed => absurd isListed (unlisted id prev)⟩
  · exact .inr ⟨valid, rfl⟩

section

variable {request : IssueTriggerPreviewRequest}

theorem validateEnums_body (decoded : decodeChange site.parsers request = .ok change) :
    (change.statusValid = true ∧ Issues.validateEnums request.updateBody = .ok ()) ∨
      (change.statusValid = false ∧ ∃ refusal, Issues.validateEnums request.updateBody = .error refusal) := by
  have given := (decodeChange_cases decoded).1
  rw [Change.statusValid, given, Issues.validateEnums]
  cases sent : present request.status with
  | none => exact .inl ⟨rfl, by simp [IssueTriggerPreviewRequest.updateBody, Issues.emptyBody, sent, bind, Except.bind]⟩
  | some status =>
      by_cases valid : status ∈ Issues.validIssueStatuses
      · exact .inl ⟨by simp [valid], by simp [IssueTriggerPreviewRequest.updateBody, Issues.emptyBody, sent,
          Issues.validateIssueEnum, valid, bind, Except.bind]⟩
      · exact .inr ⟨by simp [valid], by simp [IssueTriggerPreviewRequest.updateBody, Issues.emptyBody, sent,
          Issues.validateIssueEnum, valid, bind, Except.bind]⟩

theorem hasMutation_body (decoded : decodeChange site.parsers request = .ok change) :
    request.updateBody.hasMutation = (change.status.isSome || change.assignee.isSome) := by
  obtain ⟨status, ⟨absent, unassigned⟩ | ⟨kind, text, assignee, given, -, assigned⟩⟩ :=
    decodeChange_cases decoded
  · simp [Issues.UpdateIssueRequest.hasMutation, IssueTriggerPreviewRequest.updateBody, Issues.emptyBody, absent,
      unassigned, status]
  · simp [Issues.UpdateIssueRequest.hasMutation, IssueTriggerPreviewRequest.updateBody, Issues.emptyBody, given,
      assigned, status]

theorem batchUpdateIssues_outcome (unique : TaskQueue.PendingUnique queue.tasks)
    (decoded : decodeChange site.parsers request = .ok change) (issueIds : List String) :
    Written site caller issues queue workspaceId change issueIds <| enqueuedRuns <|
      batchUpdateIssues site caller ⟨issues, queue, []⟩ workspaceId issueIds request.updateBody := by
  by_cases valid : change.statusValid = true ∧ change.accepted site caller workspaceId = true
  · refine .inl ⟨valid.1, valid.2, ?_⟩
    simp only [batchUpdateIssues]
    split
    · rename_i empty
      refine outcome_of_idle fun id prev isListed => ?_
      obtain ⟨⟨rawId, member, -⟩, -⟩ := isListed
      rw [List.isEmpty_iff.mp empty] at member
      contradiction
    · split
      · rename_i idle
        rw [hasMutation_body decoded, Bool.not_eq_true', Bool.or_eq_false_iff, Option.isSome_eq_false_iff,
          Option.isSome_eq_false_iff, Option.isNone_iff_eq_none, Option.isNone_iff_eq_none] at idle
        refine outcome_of_idle fun id prev _ => ?_
        have same : change.apply prev = prev := by simp [Change.apply, idle.1, idle.2]
        have once := started_apply site caller queue change id prev
        have none := completed_apply change id prev
        rw [same] at once none
        exact ⟨none, once⟩
      · rcases validateEnums_body decoded with ⟨-, accepted⟩ | ⟨invalid, -⟩
        · simp only [accepted, bind, Except.bind, enqueuedRuns]
          refine outcome_of_notices (swept_batch unique decoded valid.2 issueIds) fun parentId => ?_
          exact ChildDone.notified_parents_iff _ _ parentId
        · rw [valid.1] at invalid
          contradiction
  · refine .inr ⟨valid, ?_⟩
    simp only [batchUpdateIssues]
    split
    · rfl
    · split
      · rfl
      · rcases validateEnums_body decoded with ⟨statusValid, accepted⟩ | ⟨-, refusal, refused⟩
        · have unaccepted : change.accepted site caller workspaceId = false :=
            Bool.of_not_eq_true fun accepted => valid ⟨statusValid, accepted⟩
          simp [accepted, bind, Except.bind, batch_refused decoded unaccepted, enqueuedRuns,
            ChildDone.notifyParentsOfBatchChildDone, ChildDone.groupByParent, postNotices]
        · simp [refused, bind, Except.bind, enqueuedRuns]

theorem prepareUpdate_body (decoded : decodeChange site.parsers request = .ok change) (id : Id)
    {prev : Issues.Issue} (own : prev.workspaceId = workspaceId) :
    (change.statusValid = true ∧ change.accepted site caller workspaceId = true ∧
        Issues.prepareUpdate site.parsers (site.directory caller) issues id prev request.updateBody =
          .ok (change.params prev)) ∨
      (¬(change.statusValid = true ∧ change.accepted site caller workspaceId = true) ∧ ∃ refusal,
        Issues.prepareUpdate site.parsers (site.directory caller) issues id prev request.updateBody =
          .error refusal) := by
  rw [Issues.prepareUpdate, updateParams_body decoded, own, Change.accepted]
  have attachments : request.updateBody.attachmentIds = [] := rfl
  rcases validateEnums_body decoded with ⟨statusValid, passes⟩ | ⟨statusInvalid, refusal, refused⟩
  · rcases validate_cases change (site.directory caller) workspaceId with ⟨refusal, refused⟩ | valid
    · exact .inr ⟨by simp [refused], refusal, by simp [passes, refused, bind, Except.bind, Except.map]⟩
    · refine .inl ⟨statusValid, by simp [valid], ?_⟩
      simp [passes, valid, bind, Except.bind, Except.map, Issues.parseUUIDSlice, attachments]
  · exact .inr ⟨by simp [statusInvalid], refusal, by simp [refused, bind, Except.bind]⟩

theorem closed_child_iff {queries : ChildDone.Queries} {id parentId : Id} {prev : Issues.Issue}
    (changed : (change.input id prev).statusChanged = true) :
    (isTerminalChildStatus prev.status = false ∧ isTerminalChildStatus (change.apply prev).status = true ∧
        ChildDone.closedParent queries (childIssue id (change.apply prev)) = some parentId) ↔
      ∃ child ∈ [] ++ (change.completed id prev).toList,
        ChildDone.closedParent queries child = some parentId := by
  rw [List.nil_append, Change.completed, changed]
  constructor
  · rintro ⟨wasOpen, terminal, closes⟩
    obtain ⟨linkedId, -, -, linked, -⟩ := ChildDone.closedParent_eq_some.mp closes
    have child : prev.parentIssueId = some linkedId := linked
    exact ⟨childIssue id (change.apply prev), by simp [child, wasOpen, terminal], closes⟩
  · rintro ⟨child, member, closes⟩
    split at member
    · rename_i guards
      simp only [Bool.true_and, Bool.and_eq_true, Bool.not_eq_true'] at guards
      obtain rfl : child = childIssue id (change.apply prev) := by simpa using member
      exact ⟨guards.1.2, guards.2, closes⟩
    · contradiction

theorem updateIssue_outcome (unique : TaskQueue.PendingUnique queue.tasks)
    (decoded : decodeChange site.parsers request = .ok change) (issueId : String) :
    Written site caller issues queue workspaceId change [issueId] <| enqueuedRuns <|
      updateIssue site caller ⟨issues, queue, []⟩ workspaceId issueId request.updateBody := by
  cases parsed : site.parsers.parseUUID issueId with
  | none =>
      simp only [updateIssue, parsed, enqueuedRuns]
      refine written_nothing ?_
      rintro id prev ⟨⟨rawId, member, parsedRaw⟩, -⟩
      rw [List.mem_singleton.mp member, parsed] at parsedRaw
      contradiction
  | some id =>
      cases found : Issues.getIssueInWorkspace issues id workspaceId with
      | none =>
          simp only [updateIssue, parsed, Issues.updateIssuePublished, found, enqueuedRuns]
          refine written_nothing ?_
          rintro other prev ⟨⟨rawId, member, parsedRaw⟩, here⟩
          rw [List.mem_singleton.mp member, parsed] at parsedRaw
          obtain rfl : id = other := Option.some.inj parsedRaw
          rw [found] at here
          contradiction
      | some prev =>
          obtain ⟨stored, own⟩ := Option.filter_eq_some_iff.mp found
          rcases @prepareUpdate_body site caller issues workspaceId change request decoded id prev
            (by simpa using own) with ⟨statusValid, accepted, prepared⟩ | ⟨invalid, refusal, refused⟩
          · refine .inl ⟨statusValid, accepted, ?_⟩
            obtain ⟨trigger, flag⟩ := publishBatch_body decoded id prev
            have started := (@swept_start site caller workspaceId change issues queue unique).advance parsed found
              (fun row isListed => by
                obtain ⟨⟨rawId, member, -⟩, -⟩ := isListed
                contradiction)
              (@startRun_cases site caller
                ⟨Function.update issues id (some (change.apply prev)), queue, []⟩ id
                (change.input id prev).toIssueTriggerInput unique)
            simp only [updateIssue, parsed, Issues.updateIssuePublished, found, prepared, Bool.false_eq_true,
              if_false, update_params, Issues.store, stored, Option.map_some, enqueuedRuns, Issues.publish, flag,
              trigger]
            cases changed : (change.input id prev).statusChanged with
            | false =>
                have open' : change.completed id prev = none := by simp [Change.completed, changed]
                have nobody := @outcome_of_notices site caller issues queue workspaceId change [issueId] _ []
                  started
                exact nobody fun parentId => by simp [open']
            | true =>
                refine outcome_of_notices started fun parentId => ?_
                rw [ChildDone.notified_parent_iff]
                exact closed_child_iff changed
          · refine .inr ⟨invalid, ?_⟩
            simp [updateIssue, parsed, Issues.updateIssuePublished, found, refused, enqueuedRuns]

end

def Reported (site : Site) (caller : Caller) (issues : Issues.Table) (queue : Db) (workspaceId : Id)
    (change : Change) (issueIds : List String) (id agentId : Id) : Prop :=
  ∃ prev, listed site issues workspaceId issueIds id prev ∧
    previewed site caller queue workspaceId (change.input id prev) = some agentId

theorem reported_iff {starts : Id → Issues.Issue → Option Id}
    (begins : ∀ id prev agentId, starts id prev = some agentId ↔
      (change.statusValid = true ∧ change.accepted site caller workspaceId = true) ∧
        started site caller queue id (change.input id prev) = some agentId) :
    (∀ id agentId, Reported site caller issues queue workspaceId change issueIds id agentId ↔
        ∃ prev, listed site issues workspaceId issueIds id prev ∧ starts id prev = some agentId) ↔
      ∀ id prev, listed site issues workspaceId issueIds id prev →
        IssuePredicted site caller queue workspaceId change id prev := by
  constructor
  · intro same id prev isListed
    rw [← issuePredicted_iff (listed_own isListed).2]
    intro agentId
    rw [← begins]
    constructor
    · intro named
      obtain ⟨other, alsoListed, starting⟩ := (same id agentId).mp ⟨prev, isListed, named⟩
      rwa [listed_unique isListed alsoListed]
    · intro starting
      obtain ⟨other, alsoListed, named⟩ := (same id agentId).mpr ⟨prev, isListed, starting⟩
      rwa [listed_unique isListed alsoListed]
  · intro predicted id agentId
    refine exists_congr fun prev => and_congr_right fun isListed => ?_
    rw [begins]
    exact (issuePredicted_iff (listed_own isListed).2).mpr (predicted id prev isListed) agentId

theorem reported_agrees_iff {runs : List (Id × Id)}
    (written : Written site caller issues queue workspaceId change issueIds runs) :
    (∀ id agentId, Reported site caller issues queue workspaceId change issueIds id agentId ↔
        (id, agentId) ∈ runs) ↔
      ListPredicted site caller issues queue workspaceId change issueIds := by
  rcases written with ⟨valid, accepted, ⟨nobody, begun⟩ | ⟨parentId, agentId, woken, begun⟩⟩ | ⟨refused, rfl⟩
  · rw [forall₂_congr fun id agentId => iff_congr Iff.rfl (begun id agentId),
      reported_iff fun id prev agentId => (and_iff_right ⟨valid, accepted⟩).symm]
    exact ⟨fun each => ⟨each, fun _ _ => nobody⟩, ListPredicted.each⟩
  · refine iff_of_false (fun same => ?_) fun predicted =>
      predicted.nobodyWoken valid accepted parentId agentId woken
    obtain ⟨row, parentListed, -⟩ := (same parentId agentId).mpr begun
    obtain ⟨id, prev, child, -, closes, parent, -⟩ := woken
    exact closed_unlisted closes parent row parentListed
  · have nothing : ∀ id agentId : Id, (id, agentId) ∈ ([] : List (Id × Id)) ↔
        ∃ prev, listed site issues workspaceId issueIds id prev ∧ (none : Option Id) = some agentId := by
      simp
    have refusedAll : ∀ (id : Id) (prev : Issues.Issue) (agentId : Id), (none : Option Id) = some agentId ↔
        (change.statusValid = true ∧ change.accepted site caller workspaceId = true) ∧
          started site caller queue id (change.input id prev) = some agentId := by
      simp [refused]
    rw [forall₂_congr fun id agentId => iff_congr Iff.rfl (nothing id agentId), reported_iff refusedAll]
    exact ⟨fun each => ⟨each, fun valid accepted => absurd ⟨valid, accepted⟩ refused⟩, ListPredicted.each⟩

end

end MulticaOS.IssueTriggers
