import MulticaOS.IssueTriggers.Writes

/-!
`PreviewIssueTrigger`, and the write that a previewed request stands for: the same assignee and the
same status, where they are given.
-/

namespace MulticaOS.IssueTriggers

open TaskQueue (Db)

def maxPreviewTriggerIssues : Nat := 500

structure IssueTriggerPreviewRequest where
  issueIds : List String
  isCreate : Bool
  assigneeType : Option String
  assigneeId : Option String
  status : Option String

structure IssueTriggerPreviewItem where
  issueId : Option Id
  agentId : Id
  source : RunEnqueueSource
  deriving DecidableEq

def present (field : Option String) : Option String := field.filter fun text => text ≠ ""

def IssueTriggerPreviewRequest.assignee (request : IssueTriggerPreviewRequest) : Option (String × String) :=
  match present request.assigneeType, present request.assigneeId with
  | some kind, some text => some (kind, text)
  | _, _ => none

structure Change where
  assignee : Option (String × Id)
  status : Option String

def decodeChange (parsers : Issues.Parsers) (request : IssueTriggerPreviewRequest) :
    Except Issues.Refusal Change :=
  match request.assignee with
  | none => .ok ⟨none, present request.status⟩
  | some (kind, text) =>
      match parsers.parseUUID text with
      | none => .error (.badRequest "invalid assignee_id")
      | some id => .ok ⟨some (kind, id), present request.status⟩

def Change.apply (change : Change) (issue : Issues.Issue) : Issues.Issue :=
  { issue with
    assigneeType := (change.assignee.map Prod.fst).or issue.assigneeType
    assigneeId := (change.assignee.map Prod.snd).or issue.assigneeId
    status := change.status.getD issue.status }

def Change.input (change : Change) (id : Id) (loaded : Issues.Issue) : TriggerInput where
  issue := change.apply loaded
  prevStatus := loaded.status
  assigneeChanged := change.assignee.any fun (kind, assigneeId) =>
    loaded.assigneeType.getD "" ≠ kind || loaded.assigneeId ≠ some assigneeId
  statusChanged := change.status.any fun status => loaded.status ≠ status
  issueId := some id
  isCreate := false

def Change.candidate (change : Change) (workspaceId : Id) : Issues.Issue where
  workspaceId := workspaceId
  title := ""
  description := none
  status := change.status.getD "todo"
  priority := ""
  assigneeType := change.assignee.map Prod.fst
  assigneeId := change.assignee.map Prod.snd
  position := 0
  startDate := none
  dueDate := none
  parentIssueId := none
  projectId := none
  stage := none

def Change.createInput (change : Change) (workspaceId : Id) : TriggerInput where
  issue := change.candidate workspaceId
  prevStatus := ""
  assigneeChanged := false
  statusChanged := false
  issueId := none
  isCreate := true

def previewItem (site : Site) (caller : Caller) (queue : Db) (workspaceId : Id) (input : TriggerInput) :
    Option IssueTriggerPreviewItem :=
  (willEnqueueRun site queue input (issueTriggerPreviewProbe site caller workspaceId input.issueId)).map
    fun trigger => ⟨trigger.issueId, trigger.agentId, trigger.source⟩

def previewIssueTrigger (site : Site) (caller : Caller) (issues : Issues.Table) (queue : Db)
    (workspaceId : Id) (request : IssueTriggerPreviewRequest) :
    Except Issues.Refusal (List IssueTriggerPreviewItem) := do
  (if maxPreviewTriggerIssues < request.issueIds.length then .error (.badRequest "too many issue_ids")
  else .ok ())
  let change ← decodeChange site.parsers request
  if request.isCreate then
    .ok (previewItem site caller queue workspaceId (change.createInput workspaceId)).toList
  else
    .ok <| request.issueIds.filterMap fun rawId =>
      (site.parsers.parseUUID rawId).bind fun id =>
        (Issues.getIssueInWorkspace issues id workspaceId).bind fun loaded =>
          previewItem site caller queue workspaceId (change.input id loaded)

def IssueTriggerPreviewRequest.updateBody (request : IssueTriggerPreviewRequest) :
    Issues.UpdateIssueRequest :=
  { Issues.emptyBody with
    status := present request.status
    assigneeType := request.assignee.map fun pair => some pair.1
    assigneeId := request.assignee.map fun pair => some pair.2 }

/-- `draft` holds the fields of the create that its preview has no part of. -/
def IssueTriggerPreviewRequest.createBody (request : IssueTriggerPreviewRequest)
    (draft : CreateIssueRequest) : CreateIssueRequest :=
  { draft with
    status := (present request.status).getD ""
    assigneeType := request.assignee.map Prod.fst
    assigneeId := request.assignee.map Prod.snd }

def previewed (site : Site) (caller : Caller) (queue : Db) (workspaceId : Id) (input : TriggerInput) :
    Option Id :=
  (runSource input (isAgentRunningOnIssue site caller input.issueId)).bind fun source =>
    (runTarget site input.issue).bind fun target =>
      if requestCanInvoke site caller workspaceId target.agent &&
          !(source = .status && hasPendingRun site queue input.issueId target.agentId) then
        some target.agentId
      else none

section

variable {site : Site} {caller : Caller} {issues : Issues.Table} {queue : Db} {workspaceId : Id}
  {request : IssueTriggerPreviewRequest} {items : List IssueTriggerPreviewItem}

theorem mem_previewItem {input : TriggerInput} {item : IssueTriggerPreviewItem}
    (reported : previewItem site caller queue workspaceId input = some item) :
    item.issueId = input.issueId ∧ previewed site caller queue workspaceId input = some item.agentId := by
  rw [previewItem, willEnqueueRun_eq] at reported
  obtain ⟨trigger, decided, rfl⟩ := Option.map_eq_some_iff.mp reported
  obtain ⟨source, sourced, decided⟩ := Option.bind_eq_some_iff.mp decided
  obtain ⟨target, ready, decided⟩ := Option.bind_eq_some_iff.mp decided
  split at decided
  · rename_i passes
    cases decided
    refine ⟨rfl, Option.bind_eq_some_iff.mpr ⟨source, sourced, Option.bind_eq_some_iff.mpr ⟨target, ready, ?_⟩⟩⟩
    exact if_pos passes
  · contradiction

theorem previewItem_of_previewed {input : TriggerInput} {agentId : Id}
    (named : previewed site caller queue workspaceId input = some agentId) :
    ∃ item, previewItem site caller queue workspaceId input = some item ∧
      item.issueId = input.issueId ∧ item.agentId = agentId := by
  obtain ⟨source, sourced, named⟩ := Option.bind_eq_some_iff.mp named
  obtain ⟨target, ready, named⟩ := Option.bind_eq_some_iff.mp named
  split at named
  · rename_i passes
    cases named
    refine ⟨⟨input.issueId, target.agentId, source⟩, ?_, rfl, rfl⟩
    rw [previewItem, willEnqueueRun_eq]
    refine Option.map_eq_some_iff.mpr ⟨⟨input.issueId, target.agentId, target.kind, source⟩, ?_, rfl⟩
    refine Option.bind_eq_some_iff.mpr ⟨source, sourced, Option.bind_eq_some_iff.mpr ⟨target, ready, ?_⟩⟩
    exact if_pos passes
  · contradiction

def listed (site : Site) (issues : Issues.Table) (workspaceId : Id) (issueIds : List String) (id : Id)
    (loaded : Issues.Issue) : Prop :=
  (∃ rawId ∈ issueIds, site.parsers.parseUUID rawId = some id) ∧
    Issues.getIssueInWorkspace issues id workspaceId = some loaded

theorem preview_list_iff {change : Change} (decoded : decodeChange site.parsers request = .ok change)
    (existing : request.isCreate = false)
    (answered : previewIssueTrigger site caller issues queue workspaceId request = .ok items)
    (id agentId : Id) :
    (∃ item ∈ items, item.issueId = some id ∧ item.agentId = agentId) ↔
      ∃ loaded, listed site issues workspaceId request.issueIds id loaded ∧
        previewed site caller queue workspaceId (change.input id loaded) = some agentId := by
  have found : items = request.issueIds.filterMap fun rawId =>
      (site.parsers.parseUUID rawId).bind fun id =>
        (Issues.getIssueInWorkspace issues id workspaceId).bind fun loaded =>
          previewItem site caller queue workspaceId (change.input id loaded) := by
    rw [previewIssueTrigger, decoded] at answered
    obtain ⟨-, -, answered⟩ := Issues.bind_ok answered
    simpa [existing, bind, Except.bind] using answered.symm
  subst found
  simp only [List.mem_filterMap, Option.bind_eq_some_iff]
  constructor
  · rintro ⟨item, ⟨rawId, sent, parsed, parse, loaded, here, reported⟩, own, rfl⟩
    obtain ⟨same, named⟩ := mem_previewItem reported
    obtain rfl : parsed = id := Option.some.inj (same.symm.trans own)
    exact ⟨loaded, ⟨⟨rawId, sent, parse⟩, here⟩, named⟩
  · rintro ⟨loaded, ⟨⟨rawId, sent, parse⟩, here⟩, named⟩
    obtain ⟨item, reported, own, agent⟩ := previewItem_of_previewed named
    exact ⟨item, ⟨rawId, sent, id, parse, loaded, here, reported⟩, own, agent⟩

theorem preview_create_iff {change : Change} (decoded : decodeChange site.parsers request = .ok change)
    (creates : request.isCreate = true)
    (answered : previewIssueTrigger site caller issues queue workspaceId request = .ok items)
    (agentId : Id) :
    (∃ item ∈ items, item.agentId = agentId) ↔
      previewed site caller queue workspaceId (change.createInput workspaceId) = some agentId := by
  have found : items =
      (previewItem site caller queue workspaceId (change.createInput workspaceId)).toList := by
    rw [previewIssueTrigger, decoded] at answered
    obtain ⟨-, -, answered⟩ := Issues.bind_ok answered
    simpa [creates, bind, Except.bind] using answered.symm
  subst found
  simp only [Option.mem_toList]
  constructor
  · rintro ⟨item, reported, rfl⟩
    exact (mem_previewItem reported).2
  · intro named
    obtain ⟨item, reported, -, agent⟩ := previewItem_of_previewed named
    exact ⟨item, reported, agent⟩

end

end MulticaOS.IssueTriggers
