import MulticaOS.Attribution.Classify

/-!
Delegation chains: tasks enqueued one from another without a member acting.  Who answers
for the last task of a chain, and what its label says about how that person was found.
-/

namespace MulticaOS.Attribution

structure Enqueued where
  taskId : Id
  attribution : Result

def Stored (queries : Queries) (task : Enqueued) : Prop :=
  ∃ row, queries.getAgentTask task.taskId = some row ∧
    row.attribution = attributionCreateParams task.attribution

inductive Hop (parent : Enqueued) (queries : Queries) (call : Enqueue) : Prop
  | comment {commentId : Id} {comment : Comment} (unacted : call.actorUserId = none)
      (triggered : call.triggerCommentId = some commentId)
      (found : queries.getCommentInWorkspace commentId call.issue.workspaceId = some comment)
      (byAgent : comment.authorType = .agent) (writtenBy : comment.sourceTaskId = some parent.taskId)
      (stored : Stored queries parent)
  | createdIssue {originType : OriginType} (unacted : call.actorUserId = none)
      (triggered : call.triggerCommentId = none ∨ ∃ commentId comment,
        call.triggerCommentId = some commentId ∧
        queries.getCommentInWorkspace commentId call.issue.workspaceId = some comment ∧
        comment.authorType = .system)
      (byAgent : call.issue.creatorType = .agent) (linked : call.issue.originType = some originType)
      (fromTask : originType = .quickCreate ∨ originType = .agentCreate)
      (createdBy : call.issue.originId = some parent.taskId) (stored : Stored queries parent)

inductive Chain : Enqueued → List Enqueued → Prop
  | root (task : Enqueued) : Chain task []
  | hop {parent : Enqueued} {queries : Queries} {call : Enqueue} {attr : Result} {taskId : Id}
      {later : List Enqueued} (hops : Hop parent queries call)
      (accepted : enqueueAttribution queries call = .ok attr)
      (continues : Chain ⟨taskId, attr⟩ later) : Chain parent (⟨taskId, attr⟩ :: later)

theorem attributionFromIssue_created {parent : Enqueued} {queries : Queries} {issue : Issue}
    {originType : OriginType} (byAgent : issue.creatorType = .agent)
    (linked : issue.originType = some originType)
    (fromTask : originType = .quickCreate ∨ originType = .agentCreate)
    (createdBy : issue.originId = some parent.taskId) (stored : Stored queries parent) :
    attributionFromIssue queries issue =
      inherited
        { unresolved with
          evidenceKind := some .issueAssignment
          evidenceRefId := some issue.id
          delegatedFromTaskId := some parent.taskId }
        parent.attribution.userId parent.attribution.accountableUserId .delegation := by
  obtain ⟨row, found, columns⟩ := stored
  have originator : row.attribution.originatorUserId = parent.attribution.userId := by
    rw [columns]
    rfl
  have accountable : row.attribution.accountableUserId = parent.attribution.accountableUserId := by
    rw [columns]
    rfl
  rcases fromTask with rfl | rfl
  · simp [attributionFromIssue, linked, createdBy, byAgent, OriginType.fromTask, classifyDirect,
      inherited, found, originator, accountable]
  · simp [attributionFromIssue, linked, createdBy, byAgent, OriginType.fromTask, classifyDirect,
      inherited, found, originator, accountable]

theorem Hop.classified {parent : Enqueued} {queries : Queries} {call : Enqueue}
    (hops : Hop parent queries call) :
    ∃ r label, r.userId = none ∧ r.accountableUserId = none ∧ r.source = .unattributed ∧
      (label = .commentSource ∨ label = .delegation) ∧
      attributionForIssueTask queries call.issue call.triggerCommentId call.agentAuthoredSource
        call.actorUserId =
          inherited r parent.attribution.userId parent.attribution.accountableUserId label := by
  cases hops with
  | comment unacted triggered found byAgent writtenBy stored =>
      rename_i commentId comment
      obtain ⟨row, foundTask, columns⟩ := stored
      refine ⟨{ unresolved with
        evidenceKind := some .comment
        evidenceRefId := some comment.id
        delegatedFromTaskId := some parent.taskId }, call.agentAuthoredSource, rfl, rfl, rfl,
        call.labelled, ?_⟩
      have originator : row.attribution.originatorUserId = parent.attribution.userId := by
        rw [columns]
        rfl
      have accountable :
          row.attribution.accountableUserId = parent.attribution.accountableUserId := by
        rw [columns]
        rfl
      simp [attributionForIssueTask, unacted, triggered, found, byAgent, attributionFromComment,
        writtenBy, foundTask, classifyComment, inherited, originator, accountable]
  | createdIssue unacted triggered byAgent linked fromTask createdBy stored =>
      refine ⟨{ unresolved with
        evidenceKind := some .issueAssignment
        evidenceRefId := some call.issue.id
        delegatedFromTaskId := some parent.taskId }, .delegation, rfl, rfl, rfl, Or.inr rfl, ?_⟩
      rw [← attributionFromIssue_created byAgent linked fromTask createdBy stored]
      rcases triggered with none | ⟨commentId, comment, triggered, found, bySystem⟩
      · simp [attributionForIssueTask, unacted, none]
      · simp [attributionForIssueTask, unacted, triggered, found, bySystem]

theorem Hop.delegated {parent : Enqueued} {queries : Queries} {call : Enqueue}
    (hops : Hop parent queries call)
    (person : parent.attribution.userId.isSome = true ∨
      parent.attribution.accountableUserId.isSome = true) :
    ∃ attr, enqueueAttribution queries call = .ok attr ∧ attr.source.precise = true ∧
      attr.userId = parent.attribution.userId ∧
      attr.accountableUserId = if parent.attribution.userId.isSome then parent.attribution.userId
        else parent.attribution.accountableUserId := by
  obtain ⟨r, label, blank, -, -, labelled, classified⟩ := hops.classified
  obtain ⟨source, user, accountable⟩ := inherited_person blank person label
  rw [← classified] at source user accountable
  have attributed : label ≠ .unattributed := by
    rcases labelled with rfl | rfl
    · simp
    · simp
  have precise : label.precise = true := by
    rcases labelled with rfl | rfl
    · rfl
    · rfl
  refine ⟨_, ?_, ?_, user, accountable⟩
  · rw [enqueueAttribution, applyAttributionFallback, source, if_pos attributed]
  · rw [source]
    exact precise

theorem Hop.fallen {parent : Enqueued} {queries : Queries} {call : Enqueue} {attr : Result}
    (hops : Hop parent queries call) (user : parent.attribution.userId = none)
    (accountable : parent.attribution.accountableUserId = none)
    (accepted : enqueueAttribution queries call = .ok attr) :
    attr.source = .ownerFallback ∧ attr.accountableUserId.isSome = true := by
  obtain ⟨r, label, blank, -, unlabelled, -, classified⟩ := hops.classified
  rw [user, accountable, inherited_nobody blank] at classified
  rcases applyAttributionFallback_cases accepted with ⟨labelled, -⟩ | ⟨-, owned, rfl⟩
  · rw [classified, unlabelled] at labelled
    contradiction
  · exact ⟨rfl, owned⟩

structure Answered (attr : Result) : Prop where
  named : attr.accountableUserId.isSome = true
  mirrored : attr.userId.isSome = true → attr.accountableUserId = attr.userId

theorem Answered.hop {parent : Enqueued} (answered : Answered parent.attribution) {queries : Queries}
    {call : Enqueue} (hops : Hop parent queries call) :
    ∃ attr, enqueueAttribution queries call = .ok attr ∧ attr.userId = parent.attribution.userId ∧
      attr.accountableUserId = parent.attribution.accountableUserId := by
  obtain ⟨attr, accepted, -, user, accountable⟩ := hops.delegated (Or.inr answered.named)
  refine ⟨attr, accepted, user, accountable.trans ?_⟩
  split
  · rename_i authorized
    exact (answered.mirrored authorized).symm
  · rfl

structure SamePeople (root task : Enqueued) : Prop where
  originator : task.attribution.userId = root.attribution.userId
  accountable : task.attribution.accountableUserId = root.attribution.accountableUserId

theorem SamePeople.answered {root task : Enqueued} (people : SamePeople root task)
    (answered : Answered root.attribution) : Answered task.attribution := by
  refine ⟨?_, fun authorized => ?_⟩
  · rw [people.accountable]
    exact answered.named
  · rw [people.originator] at authorized ⊢
    rw [people.accountable]
    exact answered.mirrored authorized

theorem Chain.samePeople {root : Enqueued} {tasks : List Enqueued} (chain : Chain root tasks)
    (answered : Answered root.attribution) : ∀ task ∈ tasks, SamePeople root task := by
  induction chain with
  | root task => simp
  | hop hops accepted continues ih =>
      rename_i parent queries call attr taskId later
      obtain ⟨copied, acceptedCopy, user, accountable⟩ := answered.hop hops
      rw [accepted, Except.ok.injEq] at acceptedCopy
      subst acceptedCopy
      have child : SamePeople parent ⟨taskId, attr⟩ := ⟨user, accountable⟩
      intro task member
      rcases List.mem_cons.mp member with rfl | listed
      · exact child
      · have people := ih (child.answered answered) task listed
        exact ⟨people.originator.trans user, people.accountable.trans accountable⟩

/-- Along every chain from an enqueue that was not refused, no hop is refused, both people
stay the root's, and an originator is the accountable human. -/
theorem accountability_stable {queries : Queries} {call : Enqueue} {attr : Result} {rootId : Id}
    {tasks : List Enqueued} (enqueued : enqueueAttribution queries call = .ok attr)
    (chain : Chain ⟨rootId, attr⟩ tasks) :
    attr.accountableUserId.isSome = true ∧
      ∀ task ∈ (⟨rootId, attr⟩ : Enqueued) :: tasks,
        task.attribution.userId = attr.userId ∧
        task.attribution.accountableUserId = attr.accountableUserId ∧
        (task.attribution.userId.isSome = true →
          task.attribution.userId = task.attribution.accountableUserId) ∧
        ∀ queries call, Hop task queries call → ∃ next, enqueueAttribution queries call = .ok next := by
  obtain ⟨named, mirrored⟩ := enqueueAttribution_accounted enqueued
  have answered : Answered attr := ⟨named, mirrored⟩
  refine ⟨named, fun task member => ?_⟩
  have people : SamePeople ⟨rootId, attr⟩ task := by
    rcases List.mem_cons.mp member with rfl | listed
    · exact ⟨rfl, rfl⟩
    · exact chain.samePeople answered task listed
  have taskAnswered := people.answered answered
  refine ⟨people.originator, people.accountable, fun authorized => ?_, fun queries call hops => ?_⟩
  · exact (taskAnswered.mirrored authorized).symm
  · obtain ⟨next, accepted, -⟩ := taskAnswered.hop hops
    exact ⟨next, accepted⟩

/-! A chain of two hops from a run that only the agent's owner answers for. -/

def ownedAgent : Agent := ⟨some 1, some 7⟩

def orphanIssue : Issue := ⟨20, 1, .agent, 5, none, none⟩

def createdIssue : Issue := ⟨21, 1, .agent, 5, some .agentCreate, some 101⟩

def assigned (issue : Issue) (triggerCommentId : Option Id) : Enqueue :=
  ⟨issue, triggerCommentId, .commentSource, none, ownedAgent, Or.inl rfl⟩

def storedRow (task : Enqueued) : TaskQueue.Task :=
  TaskQueue.Task.forIssue 20
    { TaskQueue.plainTask with attribution := attributionCreateParams task.attribution } 0 task.taskId

def permissive (task : Enqueued) : Queries where
  getAgentTask id := if id = task.taskId then some (storedRow task) else none
  getCommentInWorkspace _ _ := some ⟨30, .agent, 5, some task.taskId⟩
  getAutopilotRunByIssue _ := none
  getAutopilotTrigger _ := none
  getActiveAutopilotRuleVersion _ _ := none
  getWorkspaceAttributionFailClosed _ := some false

def guessed : Enqueued :=
  ⟨100, none, some 7, .ownerFallback, none, none, some .issueAssignment, some 20⟩

def replied : Enqueued :=
  ⟨101, none, some 7, .commentSource, some 100, none, some .comment, some 30⟩

def spawned : Enqueued :=
  ⟨102, none, some 7, .delegation, some 101, none, some .issueAssignment, some 21⟩

theorem guessed_chain : Chain guessed [replied, spawned] := by
  apply @Chain.hop guessed (permissive guessed) (assigned orphanIssue (some 30)) replied.attribution 101
  · exact .comment rfl rfl rfl rfl rfl ⟨storedRow guessed, rfl, rfl⟩
  · rfl
  · apply @Chain.hop replied (permissive replied) (assigned createdIssue none) spawned.attribution 102
    · exact .createdIssue rfl (Or.inl rfl) rfl rfl (Or.inr rfl) rfl ⟨storedRow replied, rfl, rfl⟩
    · rfl
    · exact .root _

theorem accountability_stable_guessed :
    enqueueAttribution (permissive guessed) (assigned orphanIssue none) = .ok guessed.attribution ∧
      spawned.attribution.accountableUserId = guessed.attribution.accountableUserId :=
  ⟨rfl, ((@accountability_stable (permissive guessed) (assigned orphanIssue none) _ 100 _ rfl
    guessed_chain).2 spawned (by simp)).2.1⟩

def KeepsDegraded (root : Enqueued) (tasks : List Enqueued) : Prop :=
  root.attribution.source.precise = false →
    ∀ task ∈ tasks, task.attribution.source.precise = false

theorem Chain.first_precise {root child : Enqueued} {later : List Enqueued}
    (chain : Chain root (child :: later))
    (person : root.attribution.userId.isSome = true ∨
      root.attribution.accountableUserId.isSome = true) :
    child.attribution.source.precise = true := by
  cases chain with
  | hop hops accepted continues =>
      obtain ⟨attr, delegated, precise, -⟩ := hops.delegated person
      rw [accepted, Except.ok.injEq] at delegated
      subst delegated
      exact precise

theorem Chain.first_fallen {root child : Enqueued} {later : List Enqueued}
    (chain : Chain root (child :: later)) (user : root.attribution.userId = none)
    (accountable : root.attribution.accountableUserId = none) :
    child.attribution.source = .ownerFallback ∧
      child.attribution.accountableUserId.isSome = true ∧ Chain child later := by
  cases chain with
  | hop hops accepted continues =>
      obtain ⟨source, named⟩ := hops.fallen user accountable accepted
      exact ⟨source, named, continues⟩

/-- A degraded root stays degraded exactly while nothing was delegated from it, or only
once and from a row that names nobody. -/
theorem degraded_label_kept_iff {root : Enqueued} {tasks : List Enqueued}
    (chain : Chain root tasks) :
    KeepsDegraded root tasks ↔
      root.attribution.source.precise = true ∨ tasks = [] ∨
        (tasks.length = 1 ∧ root.attribution.userId = none ∧
          root.attribution.accountableUserId = none) := by
  by_cases precise : root.attribution.source.precise = true
  · exact ⟨fun _ => Or.inl precise, fun _ degraded => absurd precise (by simp [degraded])⟩
  have degraded : root.attribution.source.precise = false := by simpa using precise
  cases tasks with
  | nil => exact ⟨fun _ => Or.inr (Or.inl rfl), fun _ _ => by simp⟩
  | cons child later =>
      by_cases person : root.attribution.userId.isSome = true ∨
          root.attribution.accountableUserId.isSome = true
      · have childPrecise := chain.first_precise person
        constructor
        · intro kept
          have childDegraded := kept degraded child (by simp)
          rw [childPrecise] at childDegraded
          contradiction
        · rintro (isPrecise | isNil | ⟨-, user, accountable⟩)
          · exact absurd isPrecise precise
          · contradiction
          · simp [user, accountable] at person
      · have nobody : root.attribution.userId = none ∧
            root.attribution.accountableUserId = none := by
          simpa [not_or] using person
        obtain ⟨source, named, continues⟩ := chain.first_fallen nobody.1 nobody.2
        cases later with
        | nil =>
            refine ⟨fun _ => Or.inr (Or.inr ⟨rfl, nobody⟩), fun _ _ task member => ?_⟩
            rw [List.mem_singleton.mp member, source]
            rfl
        | cons grandchild rest =>
            have laterPrecise := continues.first_precise (Or.inr named)
            constructor
            · intro kept
              have laterDegraded := kept degraded grandchild (by simp)
              rw [laterPrecise] at laterDegraded
              contradiction
            · rintro (isPrecise | isNil | ⟨short, -⟩)
              · exact absurd isPrecise precise
              · contradiction
              · simp at short

theorem degraded_label_kept_iff_guessed : ¬ KeepsDegraded guessed [replied, spawned] := by
  rw [degraded_label_kept_iff guessed_chain]
  simp [guessed, Source.precise]

/-- The root is enqueued with a guessed human, and its first child is labelled precise. -/
theorem degraded_label_lost :
    enqueueAttribution (permissive guessed) (assigned orphanIssue none) = .ok guessed.attribution ∧
      Chain guessed [replied, spawned] ∧ ¬ KeepsDegraded guessed [replied, spawned] := by
  refine ⟨rfl, guessed_chain, fun kept => ?_⟩
  have degraded := kept rfl replied (by simp)
  contradiction

end MulticaOS.Attribution
