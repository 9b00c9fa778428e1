import MulticaOS.TaskQueue.Lifecycle

/-!
Who answers for a run: the classification rules of `attribution.go`, the lookups of
`task.go` that feed them, and the fallback at the enqueue boundary.
-/

namespace MulticaOS.Attribution

abbrev Id := TaskQueue.Id

inductive Source where
  | directHuman
  | delegation
  | commentSource
  | triggerOwner
  | ruleOwner
  | ownerFallback
  | backfill
  | unattributed
  deriving DecidableEq

def Source.precise : Source → Bool
  | .directHuman => true
  | .delegation => true
  | .commentSource => true
  | .triggerOwner => true
  | .ruleOwner => true
  | _ => false

def Source.string : Source → String
  | .directHuman => "direct_human"
  | .delegation => "delegation"
  | .commentSource => "comment_source"
  | .triggerOwner => "trigger_owner"
  | .ruleOwner => "rule_owner"
  | .ownerFallback => "owner_fallback"
  | .backfill => "backfill"
  | .unattributed => "unattributed"

inductive EvidenceKind where
  | comment
  | issueAssignment
  deriving DecidableEq

def EvidenceKind.string : EvidenceKind → String
  | .comment => "comment"
  | .issueAssignment => "issue_assignment"

/-- `userId` is the human whose authority the run carries, `accountableUserId` the one who
answers for it. -/
structure Result where
  userId : Option Id
  accountableUserId : Option Id
  source : Source
  delegatedFromTaskId : Option Id
  ruleVersionId : Option Id
  evidenceKind : Option EvidenceKind
  evidenceRefId : Option Id
  deriving DecidableEq

def unresolved : Result := ⟨none, none, .unattributed, none, none, none, none⟩

def finalizeAttribution (r : Result) : Result :=
  if r.userId.isSome then { r with accountableUserId := r.userId } else r

inductive ActorType where
  | member
  | agent
  | system
  deriving DecidableEq

structure CommentFacts where
  commentId : Id
  authorType : ActorType
  authorId : Option Id
  sourceTaskId : Option Id
  parentOriginator : Option Id
  parentAccountable : Option Id

def classifyComment (f : CommentFacts) (agentAuthoredSource : Source) : Result :=
  let r := { unresolved with evidenceKind := some .comment, evidenceRefId := some f.commentId }
  match f.authorType with
  | .member => finalizeAttribution { r with userId := f.authorId, source := .directHuman }
  | .agent =>
      if f.sourceTaskId.isNone then finalizeAttribution r
      else
        let delegated := { r with delegatedFromTaskId := f.sourceTaskId }
        if f.parentOriginator.isSome then
          finalizeAttribution
            { delegated with userId := f.parentOriginator, source := agentAuthoredSource }
        else if f.parentAccountable.isSome then
          finalizeAttribution
            { delegated with accountableUserId := f.parentAccountable, source := agentAuthoredSource }
        else finalizeAttribution delegated
  | .system => finalizeAttribution r

inductive OriginType where
  | quickCreate
  | agentCreate
  | autopilot
  | other (name : String)
  deriving DecidableEq

def OriginType.fromTask : OriginType → Bool
  | .quickCreate => true
  | .agentCreate => true
  | _ => false

structure DirectFacts where
  issueId : Id
  creatorType : Option ActorType
  creatorId : Option Id
  actorUserId : Option Id
  originType : Option OriginType
  originTaskId : Option Id
  originOriginator : Option Id
  originAccountable : Option Id

def classifyDirect (f : DirectFacts) : Result :=
  let r := { unresolved with evidenceKind := some .issueAssignment, evidenceRefId := some f.issueId }
  if f.actorUserId.isSome then
    finalizeAttribution { r with userId := f.actorUserId, source := .directHuman }
  else if f.creatorType = some .member && f.creatorId.isSome then
    finalizeAttribution { r with userId := f.creatorId, source := .directHuman }
  else if f.originType.any OriginType.fromTask then
    let delegated := { r with delegatedFromTaskId := f.originTaskId }
    if f.originOriginator.isSome then
      finalizeAttribution { delegated with userId := f.originOriginator, source := .delegation }
    else if f.originAccountable.isSome then
      finalizeAttribution
        { delegated with accountableUserId := f.originAccountable, source := .delegation }
    else finalizeAttribution delegated
  else finalizeAttribution r

def ruleOwner (publisherUserId ruleVersionId : Option Id) (kind : EvidenceKind) (ref : Id) : Result :=
  let r := { unresolved with
    ruleVersionId := ruleVersionId
    evidenceKind := some kind
    evidenceRefId := some ref }
  if publisherUserId.isSome then
    finalizeAttribution { r with source := .ruleOwner, accountableUserId := publisherUserId }
  else finalizeAttribution r

def triggerOwner (creatorUserId : Option Id) (kind : EvidenceKind) (ref : Id) : Result :=
  let r := { unresolved with evidenceKind := some kind, evidenceRefId := some ref }
  if creatorUserId.isSome then
    finalizeAttribution { r with source := .triggerOwner, accountableUserId := creatorUserId }
  else finalizeAttribution r

def ownerFallback (r : Result) (ownerUserId : Option Id) : Result :=
  if r.source ≠ .unattributed || ownerUserId.isNone then r
  else { r with source := .ownerFallback, accountableUserId := ownerUserId }

structure Comment where
  id : Id
  authorType : ActorType
  authorId : Id
  sourceTaskId : Option Id

structure Issue where
  id : Id
  workspaceId : Id
  creatorType : ActorType
  creatorId : Id
  originType : Option OriginType
  originId : Option Id

structure Agent where
  workspaceId : Option Id
  ownerId : Option Id

structure AutopilotTrigger where
  publishedByType : Option ActorType
  publishedById : Option Id

structure RuleVersion where
  id : Id
  publishedByType : ActorType
  publishedById : Option Id

structure Queries where
  getAgentTask : Id → Option TaskQueue.Task
  getCommentInWorkspace : Id → Id → Option Comment
  getAutopilotRunByIssue : Id → Option (Option Id)
  getAutopilotTrigger : Id → Option AutopilotTrigger
  getActiveAutopilotRuleVersion : Id → Id → Option RuleVersion
  getWorkspaceAttributionFailClosed : Id → Option Bool

def attributionFromComment (queries : Queries) (comment : Comment) (agentAuthoredSource : Source) :
    Result :=
  let facts : CommentFacts := ⟨comment.id, comment.authorType, some comment.authorId, none, none, none⟩
  if comment.authorType = .agent && comment.sourceTaskId.isSome then
    let parent := comment.sourceTaskId.bind queries.getAgentTask
    classifyComment
      { facts with
        sourceTaskId := comment.sourceTaskId
        parentOriginator := parent.bind fun task => task.attribution.originatorUserId
        parentAccountable := parent.bind fun task => task.attribution.accountableUserId }
      agentAuthoredSource
  else classifyComment facts agentAuthoredSource

def ruleOwnerAttribution (queries : Queries) (workspaceId autopilotId : Id) (kind : EvidenceKind)
    (ref : Id) : Result :=
  match queries.getActiveAutopilotRuleVersion workspaceId autopilotId with
  | none => ruleOwner none none kind ref
  | some version =>
      ruleOwner (if version.publishedByType = .member then version.publishedById else none)
        (some version.id) kind ref

def triggerOwnerAttribution (queries : Queries) (triggerId : Option Id) (workspaceId autopilotId : Id)
    (kind : EvidenceKind) (ref : Id) : Result :=
  match triggerId.bind queries.getAutopilotTrigger with
  | some trigger =>
      if trigger.publishedByType = some .member && trigger.publishedById.isSome then
        triggerOwner trigger.publishedById kind ref
      else ruleOwnerAttribution queries workspaceId autopilotId kind ref
  | none => ruleOwnerAttribution queries workspaceId autopilotId kind ref

def attributionFromIssue (queries : Queries) (issue : Issue) : Result :=
  let facts : DirectFacts :=
    ⟨issue.id, some issue.creatorType, some issue.creatorId, none, none, none, none, none⟩
  match issue.originType, issue.originId with
  | some .autopilot, some autopilotId =>
      triggerOwnerAttribution queries (queries.getAutopilotRunByIssue issue.id).join issue.workspaceId
        autopilotId .issueAssignment issue.id
  | some originType, some originId =>
      if issue.creatorType ≠ .member && originType.fromTask then
        let task := queries.getAgentTask originId
        classifyDirect
          { facts with
            originType := some originType
            originTaskId := some originId
            originOriginator := task.bind fun task => task.attribution.originatorUserId
            originAccountable := task.bind fun task => task.attribution.accountableUserId }
      else classifyDirect facts
  | _, _ => classifyDirect facts

def attributionForIssueTask (queries : Queries) (issue : Issue) (triggerCommentId : Option Id)
    (agentAuthoredSource : Source) (actorUserId : Option Id) : Result :=
  if actorUserId.isSome then
    classifyDirect ⟨issue.id, none, none, actorUserId, none, none, none, none⟩
  else
    match triggerCommentId with
    | some commentId =>
        match queries.getCommentInWorkspace commentId issue.workspaceId with
        | none => unresolved
        | some comment =>
            if comment.authorType ≠ .system then
              attributionFromComment queries comment agentAuthoredSource
            else attributionFromIssue queries issue
    | none => attributionFromIssue queries issue

inductive Refusal where
  | policyUnavailable
  | policyReadFailed
  | failClosed
  | noAgentOwner
  deriving DecidableEq

def applyAttributionFallback (queries : Queries) (attr : Result) (agent : Agent) :
    Except Refusal Result :=
  if attr.source ≠ .unattributed then .ok attr
  else
    match agent.workspaceId with
    | none => .error .policyUnavailable
    | some workspaceId =>
        match queries.getWorkspaceAttributionFailClosed workspaceId with
        | none => .error .policyReadFailed
        | some true => .error .failClosed
        | some false =>
            let fallback := ownerFallback attr agent.ownerId
            if fallback.source = .unattributed then .error .noAgentOwner else .ok fallback

/-- What an enqueue path hands over. The label is `comment_source` for the issue's assignee
and `delegation` for a mention. -/
structure Enqueue where
  issue : Issue
  triggerCommentId : Option Id
  agentAuthoredSource : Source
  actorUserId : Option Id
  agent : Agent
  labelled : agentAuthoredSource = .commentSource ∨ agentAuthoredSource = .delegation

def enqueueAttribution (queries : Queries) (call : Enqueue) : Except Refusal Result :=
  applyAttributionFallback queries
    (attributionForIssueTask queries call.issue call.triggerCommentId call.agentAuthoredSource
      call.actorUserId)
    call.agent

def attributionCreateParams (attr : Result) : TaskQueue.Attribution where
  originatorUserId := attr.userId
  accountableUserId := attr.accountableUserId
  originatorSource := some attr.source.string
  delegatedFromTaskId := attr.delegatedFromTaskId
  ruleVersionId := attr.ruleVersionId
  triggerEvidenceKind := attr.evidenceKind.map EvidenceKind.string
  triggerEvidenceRefId := attr.evidenceRefId

/-! A resolved human answers for the run, and a label is only given with one. -/

structure Accounted (r : Result) : Prop where
  mirrored : r.userId.isSome = true → r.accountableUserId = r.userId
  named : r.source ≠ .unattributed → r.accountableUserId.isSome = true
  unauthorized : r.source = .unattributed → r.userId = none

theorem finalizeAttribution_accounted {r : Result}
    (named : r.source ≠ .unattributed → r.userId.isSome = true ∨ r.accountableUserId.isSome = true)
    (unauthorized : r.source = .unattributed → r.userId = none) :
    Accounted (finalizeAttribution r) := by
  rw [finalizeAttribution]
  split
  · rename_i authorized
    exact ⟨fun _ => rfl, fun _ => authorized, unauthorized⟩
  · rename_i absent
    refine ⟨fun present => absurd present absent, fun labelled => ?_, unauthorized⟩
    exact (named labelled).resolve_left absent

def inherited (r : Result) (originator accountable : Option Id) (label : Source) : Result :=
  if originator.isSome then finalizeAttribution { r with userId := originator, source := label }
  else if accountable.isSome then
    finalizeAttribution { r with accountableUserId := accountable, source := label }
  else finalizeAttribution r

theorem inherited_accounted {r : Result} (blank : r.userId = none) (unlabelled : r.source = .unattributed)
    (originator accountable : Option Id) {label : Source} (labelled : label ≠ .unattributed) :
    Accounted (inherited r originator accountable label) := by
  rw [inherited]
  split
  · rename_i present
    exact finalizeAttribution_accounted (fun _ => Or.inl present) fun same => absurd same labelled
  · split
    · rename_i present
      exact finalizeAttribution_accounted (fun _ => Or.inr present) fun _ => blank
    · exact finalizeAttribution_accounted (fun other => absurd unlabelled other) fun _ => blank

theorem inherited_person {r : Result} (blank : r.userId = none) {originator accountable : Option Id}
    (person : originator.isSome = true ∨ accountable.isSome = true) (label : Source) :
    (inherited r originator accountable label).source = label ∧
      (inherited r originator accountable label).userId = originator ∧
      (inherited r originator accountable label).accountableUserId =
        if originator.isSome then originator else accountable := by
  cases originator with
  | some user => simp [inherited, finalizeAttribution]
  | none =>
      have present : accountable.isSome = true := by simpa using person
      simp [inherited, finalizeAttribution, present, blank]

theorem inherited_nobody {r : Result} (blank : r.userId = none) (label : Source) :
    inherited r none none label = r := by
  simp [inherited, finalizeAttribution, blank]

theorem classifyComment_accounted {f : CommentFacts} (author : f.authorId.isSome = true)
    {label : Source} (labelled : label ≠ .unattributed) : Accounted (classifyComment f label) := by
  simp only [classifyComment]
  split
  · exact finalizeAttribution_accounted (fun _ => Or.inl author) (by simp)
  · split
    · exact finalizeAttribution_accounted (by simp [unresolved]) fun _ => rfl
    · exact @inherited_accounted { unresolved with
        evidenceKind := some .comment
        evidenceRefId := some f.commentId
        delegatedFromTaskId := f.sourceTaskId } rfl rfl f.parentOriginator f.parentAccountable _ labelled
  · exact finalizeAttribution_accounted (by simp [unresolved]) fun _ => rfl

theorem classifyDirect_accounted (f : DirectFacts) : Accounted (classifyDirect f) := by
  simp only [classifyDirect]
  split
  · rename_i actor
    exact finalizeAttribution_accounted (fun _ => Or.inl actor) (by simp)
  · split
    · rename_i created
      simp only [Bool.and_eq_true] at created
      exact finalizeAttribution_accounted (fun _ => Or.inl created.2) (by simp)
    · split
      · exact @inherited_accounted { unresolved with
          evidenceKind := some .issueAssignment
          evidenceRefId := some f.issueId
          delegatedFromTaskId := f.originTaskId } rfl rfl f.originOriginator f.originAccountable
          .delegation (by simp)
      · exact finalizeAttribution_accounted (by simp [unresolved]) fun _ => rfl

theorem ruleOwner_accounted (publisher version : Option Id) (kind : EvidenceKind) (ref : Id) :
    Accounted (ruleOwner publisher version kind ref) := by
  simp only [ruleOwner]
  split
  · rename_i present
    exact finalizeAttribution_accounted (fun _ => Or.inr present) fun _ => rfl
  · exact finalizeAttribution_accounted (by simp [unresolved]) fun _ => rfl

theorem triggerOwner_accounted (creator : Option Id) (kind : EvidenceKind) (ref : Id) :
    Accounted (triggerOwner creator kind ref) := by
  simp only [triggerOwner]
  split
  · rename_i present
    exact finalizeAttribution_accounted (fun _ => Or.inr present) fun _ => rfl
  · exact finalizeAttribution_accounted (by simp [unresolved]) fun _ => rfl

theorem triggerOwnerAttribution_accounted (queries : Queries) (triggerId : Option Id)
    (workspaceId autopilotId : Id) (kind : EvidenceKind) (ref : Id) :
    Accounted (triggerOwnerAttribution queries triggerId workspaceId autopilotId kind ref) := by
  have byRule : Accounted (ruleOwnerAttribution queries workspaceId autopilotId kind ref) := by
    rw [ruleOwnerAttribution]
    split
    · exact ruleOwner_accounted none none kind ref
    · exact ruleOwner_accounted _ _ kind ref
  rw [triggerOwnerAttribution]
  split
  · split
    · exact triggerOwner_accounted _ kind ref
    · exact byRule
  · exact byRule

theorem attributionFromIssue_accounted (queries : Queries) (issue : Issue) :
    Accounted (attributionFromIssue queries issue) := by
  simp only [attributionFromIssue]
  split
  · exact triggerOwnerAttribution_accounted queries _ _ _ _ _
  · split
    · exact classifyDirect_accounted _
    · exact classifyDirect_accounted _
  · exact classifyDirect_accounted _

theorem attributionForIssueTask_accounted (queries : Queries) (issue : Issue)
    (triggerCommentId actorUserId : Option Id) {label : Source} (labelled : label ≠ .unattributed) :
    Accounted (attributionForIssueTask queries issue triggerCommentId label actorUserId) := by
  simp only [attributionForIssueTask]
  split
  · exact classifyDirect_accounted _
  · split
    · split
      · exact ⟨by simp [unresolved], by simp [unresolved], fun _ => rfl⟩
      · split
        · rw [attributionFromComment]
          split
          · exact classifyComment_accounted rfl labelled
          · exact classifyComment_accounted rfl labelled
        · exact attributionFromIssue_accounted queries issue
    · exact attributionFromIssue_accounted queries issue

theorem Enqueue.label_ne (call : Enqueue) : call.agentAuthoredSource ≠ .unattributed := by
  rcases call.labelled with commentSource | delegation
  · simp [commentSource]
  · simp [delegation]

theorem applyAttributionFallback_cases {queries : Queries} {attr final : Result} {agent : Agent}
    (accepted : applyAttributionFallback queries attr agent = .ok final) :
    (attr.source ≠ .unattributed ∧ final = attr) ∨
      (attr.source = .unattributed ∧ agent.ownerId.isSome = true ∧
        final = { attr with source := .ownerFallback, accountableUserId := agent.ownerId }) := by
  rw [applyAttributionFallback] at accepted
  split at accepted
  · rename_i labelled
    exact Or.inl ⟨labelled, by simpa using accepted.symm⟩
  · rename_i unlabelled
    have unattributed : attr.source = .unattributed := by simpa using unlabelled
    refine Or.inr ⟨unattributed, ?_⟩
    split at accepted
    · cases accepted
    · split at accepted
      · cases accepted
      · cases accepted
      · dsimp only at accepted
        rw [ownerFallback] at accepted
        split at accepted
        · cases accepted
        · rename_i owned
          simp only [unattributed, ne_eq, not_true_eq_false, decide_false, Bool.false_or,
            Bool.not_eq_true, Option.isNone_eq_false_iff] at owned
          refine ⟨owned, ?_⟩
          simpa using accepted.symm

theorem enqueueAttribution_accounted {queries : Queries} {call : Enqueue} {attr : Result}
    (accepted : enqueueAttribution queries call = .ok attr) :
    attr.accountableUserId.isSome = true ∧
      (attr.userId.isSome = true → attr.accountableUserId = attr.userId) := by
  have resolved := attributionForIssueTask_accounted queries call.issue call.triggerCommentId
    call.actorUserId call.label_ne
  rcases applyAttributionFallback_cases accepted with ⟨labelled, rfl⟩ | ⟨unlabelled, owned, rfl⟩
  · exact ⟨resolved.named labelled, resolved.mirrored⟩
  · refine ⟨owned, fun authorized => ?_⟩
    have absent := resolved.unauthorized unlabelled
    rw [absent] at authorized
    contradiction

end MulticaOS.Attribution
