import MulticaOS.Issues.Updates

/-!
What `UpdateIssue` and `BatchUpdateIssues` say has changed: the flags of the `issue:updated`
event and of the input to `WillEnqueueRun`, next to what the write did to the stored row.
-/

namespace MulticaOS.Issues

structure ChangeFlags where
  assigneeChanged : Bool
  statusChanged : Bool
  priorityChanged : Bool
  projectChanged : Bool
  deriving DecidableEq

def changeFlags (body : UpdateIssueRequest) (prev issue : Issue) : ChangeFlags where
  assigneeChanged := (body.assigneeType.join.isSome || body.assigneeId.join.isSome) &&
    (prev.assigneeType.getD "" ≠ issue.assigneeType.getD "" || prev.assigneeId ≠ issue.assigneeId)
  statusChanged := body.status.isSome && prev.status ≠ issue.status
  priorityChanged := body.priority.isSome && prev.priority ≠ issue.priority
  projectChanged := body.projectId.join.isSome && prev.projectId ≠ issue.projectId

/-- `!=` on two pointers, each of them nil or to a copy of its own. -/
def pointersDiffer {Value : Type} (left right : Option Value) : Bool := left.isSome || right.isSome

def dateChanged (prev date : Option Int) : Bool :=
  pointersDiffer prev date && prev.isNone != date.isNone ||
    match prev, date with
    | some old, some new => old ≠ new
    | _, _ => false

structure IssueTriggerInput where
  issue : Issue
  prevStatus : String
  assigneeChanged : Bool
  statusChanged : Bool
  deriving DecidableEq

/-- The event of `BatchUpdateIssues`, and what `WillEnqueueRun` is asked after it. -/
structure BatchPublished where
  issue : Issue
  flags : ChangeFlags
  trigger : IssueTriggerInput
  deriving DecidableEq

structure Published extends BatchPublished where
  prev : Issue
  startDateChanged : Bool
  dueDateChanged : Bool
  descriptionChanged : Bool
  titleChanged : Bool
  deriving DecidableEq

def publishBatch (body : UpdateIssueRequest) (prev issue : Issue) : BatchPublished where
  issue := issue
  flags := changeFlags body prev issue
  trigger :=
    { issue := issue
      prevStatus := prev.status
      assigneeChanged := (changeFlags body prev issue).assigneeChanged
      statusChanged := (changeFlags body prev issue).statusChanged }

def publish (body : UpdateIssueRequest) (prev issue : Issue) : Published where
  toBatchPublished := publishBatch body prev issue
  prev := prev
  startDateChanged := dateChanged prev.startDate issue.startDate
  dueDateChanged := dateChanged prev.dueDate issue.dueDate
  descriptionChanged := body.description.isSome && pointersDiffer prev.description issue.description
  titleChanged := body.title.isSome && prev.title ≠ issue.title

def updateIssuePublished (parsers : Parsers) (directory : Directory) (table : Table)
    (workspaceId id : Nat) (body : UpdateIssueRequest) (fails : Bool) :
    Except Refusal (Table × Published) :=
  match getIssueInWorkspace table id workspaceId with
  | none => .error (.notFound "issue not found")
  | some prev =>
      match prepareUpdate parsers directory table id prev body with
      | .error refusal => .error refusal
      | .ok params =>
          if fails then .error .statementFailed
          else .ok (store table id params, publish body prev (prev.update params))

def batchUpdateIssuePublished (parsers : Parsers) (directory : Directory) (table : Table)
    (workspaceId : Nat) (issueId : String) (body : UpdateIssueRequest) (fails : Bool) :
    Option (Nat × BatchPublished) :=
  match parsers.parseUUID issueId with
  | none => none
  | some id =>
      match getIssueInWorkspace table id workspaceId with
      | none => none
      | some prev =>
          match updateParams parsers directory table id prev body with
          | .error _ => none
          | .ok params => if fails then none else some (id, publishBatch body prev (prev.update params))

/-- The rounds of a batch that write: the table before, the issue, what is published and the
table after. -/
def batchRounds (parsers : Parsers) (directory : Directory) (workspaceId : Nat)
    (body : UpdateIssueRequest) : Table → List (String × Bool) → List (Table × Nat × BatchPublished × Table)
  | _, [] => []
  | table, (issueId, fails) :: rest =>
      let next := batchUpdateIssue parsers directory table workspaceId issueId body fails
      ((batchUpdateIssuePublished parsers directory table workspaceId issueId body fails).map
        fun (id, published) => (table, id, published, next)).toList ++
          batchRounds parsers directory workspaceId body next rest

structure Truthful (before after : Issue) (flags : ChangeFlags) : Prop where
  assignee : flags.assigneeChanged = true ↔
    ¬ (before.assigneeType = after.assigneeType ∧ before.assigneeId = after.assigneeId)
  status : flags.statusChanged = true ↔ before.status ≠ after.status
  priority : flags.priorityChanged = true ↔ before.priority ≠ after.priority
  project : flags.projectChanged = true ↔ before.projectId ≠ after.projectId

structure BatchTruthful (before after : Issue) (published : BatchPublished) : Prop where
  flags : Truthful before after published.flags
  triggerAssignee : published.trigger.assigneeChanged = published.flags.assigneeChanged
  triggerStatus : published.trigger.statusChanged = published.flags.statusChanged

structure FullyTruthful (before after : Issue) (published : Published) : Prop where
  batch : BatchTruthful before after published.toBatchPublished
  title : published.titleChanged = true ↔ before.title ≠ after.title
  description : published.descriptionChanged = true ↔ before.description ≠ after.description
  startDate : published.startDateChanged = true ↔ before.startDate ≠ after.startDate
  dueDate : published.dueDateChanged = true ↔ before.dueDate ≠ after.dueDate

def Clears {Raw Value : Type} (given : Option (Option Raw)) (stored : Option Value) : Prop :=
  given = some none ∧ stored.isSome = true

def ClearsAssignee (body : UpdateIssueRequest) (prev : Issue) : Prop :=
  body.assigneeType.join = none ∧ body.assigneeId.join = none ∧
    (Clears body.assigneeType prev.assigneeType ∨ Clears body.assigneeId prev.assigneeId)

def ClearsProject (body : UpdateIssueRequest) (prev : Issue) : Prop :=
  Clears body.projectId prev.projectId

def RepeatsDescription (body : UpdateIssueRequest) (prev : Issue) : Prop :=
  ∃ text, body.description = some text ∧ prev.description = some text

theorem validateAssigneePair_kind {directory : Directory} {workspaceId : Nat}
    {assigneeType : Option String} {assigneeId : Option Nat}
    (valid : validateAssigneePair directory workspaceId assigneeType assigneeId = .ok ()) :
    (assigneeType = none ∧ assigneeId = none) ∨
      ∃ kind id, assigneeType = some kind ∧ assigneeId = some id ∧ kind ≠ "" := by
  unfold validateAssigneePair at valid
  split at valid
  · exact Or.inl ⟨rfl, rfl⟩
  · exact Or.inr ⟨_, _, rfl, rfl, by decide⟩
  · exact Or.inr ⟨_, _, rfl, rfl, by decide⟩
  · exact Or.inr ⟨_, _, rfl, rfl, by decide⟩
  · contradiction
  · contradiction

theorem updateParams_pair {parsers : Parsers} {directory : Directory} {table : Table} {id : Nat}
    {prev : Issue} {body : UpdateIssueRequest} {params : UpdateIssueParams}
    (made : updateParams parsers directory table id prev body = .ok params)
    (touched : (body.assigneeType.isSome || body.assigneeId.isSome) = true) :
    validateAssigneePair directory prev.workspaceId params.assigneeType params.assigneeId = .ok () := by
  unfold updateParams at made
  obtain ⟨assigneeId, -, made⟩ := bind_ok made
  obtain ⟨startDate, -, made⟩ := bind_ok made
  obtain ⟨dueDate, -, made⟩ := bind_ok made
  obtain ⟨parentIssueId, -, made⟩ := bind_ok made
  obtain ⟨projectId, -, made⟩ := bind_ok made
  obtain ⟨stage, -, made⟩ := bind_ok made
  rw [if_pos touched] at made
  obtain ⟨valid, checked, made⟩ := bind_ok made
  cases made
  exact checked

theorem prepareUpdate_params {parsers : Parsers} {directory : Directory} {table : Table} {id : Nat}
    {prev : Issue} {body : UpdateIssueRequest} {params : UpdateIssueParams}
    (prepared : prepareUpdate parsers directory table id prev body = .ok params) :
    updateParams parsers directory table id prev body = .ok params := by
  unfold prepareUpdate at prepared
  obtain ⟨-, -, prepared⟩ := bind_ok prepared
  obtain ⟨made, madeOk, prepared⟩ := bind_ok prepared
  obtain ⟨-, -, prepared⟩ := bind_ok prepared
  cases prepared
  exact madeOk

theorem overlay_unpointed {Raw Value : Type} {given : Option (Option Raw)} {copy value : Option Value}
    {decode : Raw → Except Refusal (Option Value)} (decoded : overlay given copy decode = .ok value)
    (unpointed : given.join = none) : copy = value ↔ ¬ Clears given copy := by
  cases given with
  | none =>
      cases decoded
      simp [Clears]
  | some pointer =>
      cases pointer with
      | some raw => contradiction
      | none =>
          cases decoded
          cases copy with
          | none => simp [Clears]
          | some stored => simp [Clears]

theorem getD_unpointed {Value : Type} {given : Option (Option Value)} {copy : Option Value}
    (unpointed : given.join = none) : copy = given.getD copy ↔ ¬ Clears given copy := by
  rcases given with _ | _ | value
  · simp [Clears]
  · cases copy with
    | none => simp [Clears]
    | some stored => simp [Clears]
  · contradiction

theorem dateChanged_iff (prev date : Option Int) : dateChanged prev date = true ↔ prev ≠ date := by
  cases prev with
  | none =>
      cases date with
      | none => simp [dateChanged, pointersDiffer]
      | some new => simp [dateChanged, pointersDiffer]
  | some old =>
      cases date with
      | none => simp [dateChanged, pointersDiffer]
      | some new => simp [dateChanged, pointersDiffer]

theorem coalesced_flag {Value : Type} [DecidableEq Value] (given : Option Value) (stored : Value) :
    (given.isSome && stored ≠ given.getD stored) = true ↔ stored ≠ given.getD stored := by
  cases given with
  | none => simp
  | some value => simp

theorem overlay_uuid_isSome {parsers : Parsers} {field : String} {given : Option (Option String)}
    {copy value : Option Nat} (decoded : overlay given copy (decodeUUID parsers field) = .ok value)
    (pointed : given.join.isSome = true) : value.isSome = true := by
  rcases given with _ | _ | raw
  · contradiction
  · contradiction
  · simp only [overlay, decodeUUID] at decoded
    split at decoded
    · contradiction
    · cases decoded
      rfl

section

variable {parsers : Parsers} {directory : Directory} {table : Table} {id : Nat} {prev : Issue}
  {body : UpdateIssueRequest} {params : UpdateIssueParams}

theorem assigneeChanged_iff (made : updateParams parsers directory table id prev body = .ok params) :
    ((changeFlags body prev (prev.update params)).assigneeChanged = true ↔
      ¬ (prev.assigneeType = params.assigneeType ∧ prev.assigneeId = params.assigneeId)) ↔
      ¬ ClearsAssignee body prev := by
  have parts := updateParams_ok made
  cases pointed : body.assigneeType.join.isSome || body.assigneeId.join.isSome with
  | true =>
      have noClear : ¬ ClearsAssignee body prev := by
        rintro ⟨noType, noId, -⟩
        rw [noType, noId] at pointed
        contradiction
      have touched : (body.assigneeType.isSome || body.assigneeId.isSome) = true := by
        revert pointed
        cases body.assigneeType <;> cases body.assigneeId <;> simp
      -- the pair that was accepted is an assignee: one of its halves was given
      have assigned : ¬ (params.assigneeType = none ∧ params.assigneeId = none) := by
        rintro ⟨noType, noId⟩
        rcases Bool.or_eq_true _ _ ▸ pointed with typed | identified
        · obtain ⟨kind, given⟩ := Option.isSome_iff_exists.mp typed
          rw [parts.assigneeType, Option.join_eq_some_iff.mp given] at noType
          contradiction
        · have present := overlay_uuid_isSome parts.assigneeId identified
          rw [noId] at present
          contradiction
      rcases validateAssigneePair_kind (updateParams_pair made touched) with nobody | somebody
      · exact absurd nobody assigned
      · obtain ⟨kind, assignee, hasType, hasId, named⟩ := somebody
        have sameKind : prev.assigneeType.getD "" = kind ↔ prev.assigneeType = some kind := by
          cases prev.assigneeType with
          | none => simpa using named
          | some old => simp
        refine iff_of_true ?_ noClear
        rw [hasType, hasId]
        simp only [changeFlags, pointed, Issue.update, hasType, hasId, Option.getD_some, Bool.true_and,
          Bool.or_eq_true, decide_eq_true_eq, ne_eq, sameKind]
        tauto
  | false =>
      obtain ⟨noType, noId⟩ := Bool.or_eq_false_iff.mp pointed
      rw [Option.isSome_eq_false_iff, Option.isNone_iff_eq_none] at noType noId
      have typeKept : prev.assigneeType = params.assigneeType ↔
          ¬ Clears body.assigneeType prev.assigneeType := by
        rw [parts.assigneeType]
        exact getD_unpointed noType
      have idKept := overlay_unpointed parts.assigneeId noId
      have silent : (changeFlags body prev (prev.update params)).assigneeChanged = false := by
        simp [changeFlags, noType, noId]
      rw [silent, ClearsAssignee, typeKept, idKept]
      simp only [noType, noId, Bool.false_eq_true, false_iff, true_and]
      tauto

theorem projectChanged_iff (made : updateParams parsers directory table id prev body = .ok params) :
    ((changeFlags body prev (prev.update params)).projectChanged = true ↔
      prev.projectId ≠ params.projectId) ↔ ¬ ClearsProject body prev := by
  have parts := updateParams_ok made
  cases pointed : body.projectId.join.isSome with
  | true =>
      have noClear : ¬ ClearsProject body prev := by
        rintro ⟨cleared, -⟩
        rw [cleared] at pointed
        contradiction
      refine iff_of_true ?_ noClear
      simp only [changeFlags, pointed, Issue.update, Bool.true_and]
      exact decide_eq_true_iff
  | false =>
      rw [Option.isSome_eq_false_iff, Option.isNone_iff_eq_none] at pointed
      have kept := overlay_unpointed parts.projectId pointed
      have silent : (changeFlags body prev (prev.update params)).projectChanged = false := by
        simp [changeFlags, pointed]
      rw [silent, ClearsProject, ← kept]
      simp

theorem descriptionChanged_iff (description : params.description = body.description) :
    ((publish body prev (prev.update params)).descriptionChanged = true ↔
      prev.description ≠ (prev.update params).description) ↔ ¬ RepeatsDescription body prev := by
  simp only [publish, Issue.update, description, pointersDiffer, RepeatsDescription]
  cases body.description with
  | none => simp
  | some text =>
      cases prev.description with
      | none => simp
      | some old => simp [eq_comm]

theorem batch_truthful_iff (made : updateParams parsers directory table id prev body = .ok params) :
    BatchTruthful prev (prev.update params) (publishBatch body prev (prev.update params)) ↔
      ¬ ClearsAssignee body prev ∧ ¬ ClearsProject body prev := by
  have assignee := assigneeChanged_iff made
  have project := projectChanged_iff made
  obtain ⟨-, -, statusGiven, priorityGiven, -⟩ := (updateParams_ok made).coalesced
  constructor
  · intro truthful
    exact ⟨assignee.mp truthful.flags.assignee, project.mp truthful.flags.project⟩
  · rintro ⟨noAssignee, noProject⟩
    refine ⟨⟨assignee.mpr noAssignee, ?_, ?_, project.mpr noProject⟩, rfl, rfl⟩
    · simp only [publishBatch, changeFlags, Issue.update, statusGiven]
      exact coalesced_flag body.status prev.status
    · simp only [publishBatch, changeFlags, Issue.update, priorityGiven]
      exact coalesced_flag body.priority prev.priority

theorem publish_truthful_iff (made : updateParams parsers directory table id prev body = .ok params) :
    FullyTruthful prev (prev.update params) (publish body prev (prev.update params)) ↔
      ¬ ClearsAssignee body prev ∧ ¬ ClearsProject body prev ∧ ¬ RepeatsDescription body prev := by
  have batch := batch_truthful_iff made
  obtain ⟨titleGiven, descriptionGiven, -⟩ := (updateParams_ok made).coalesced
  have description : _ ↔ ¬ RepeatsDescription body prev :=
    @descriptionChanged_iff prev body params descriptionGiven
  constructor
  · intro truthful
    obtain ⟨noAssignee, noProject⟩ := batch.mp truthful.batch
    exact ⟨noAssignee, noProject, description.mp truthful.description⟩
  · rintro ⟨noAssignee, noProject, noRepeat⟩
    refine ⟨batch.mpr ⟨noAssignee, noProject⟩, ?_, description.mpr noRepeat, dateChanged_iff _ _,
      dateChanged_iff _ _⟩
    simp only [publish, Issue.update, titleGiven]
    exact coalesced_flag body.title prev.title

end

theorem updateIssuePublished_ok {parsers : Parsers} {directory : Directory} {table next : Table}
    {workspaceId id : Nat} {body : UpdateIssueRequest} {fails : Bool} {published : Published}
    (accepted : updateIssuePublished parsers directory table workspaceId id body fails =
      .ok (next, published)) :
    ∃ prev params, table id = some prev ∧ updateParams parsers directory table id prev body = .ok params ∧
      next id = some (prev.update params) ∧ published = publish body prev (prev.update params) := by
  unfold updateIssuePublished at accepted
  split at accepted
  · contradiction
  · rename_i prev found
    split at accepted
    · contradiction
    · rename_i params prepared
      split at accepted
      · contradiction
      · cases accepted
        have stored := (Option.filter_eq_some_iff.mp found).1
        refine ⟨prev, params, stored, prepareUpdate_params prepared, ?_, rfl⟩
        simp [store, stored]

theorem batchRounds_mem {parsers : Parsers} {directory : Directory} {workspaceId : Nat}
    {body : UpdateIssueRequest} {issueIds : List (String × Bool)} {table before next : Table} {id : Nat}
    {published : BatchPublished}
    (round : (before, id, published, next) ∈ batchRounds parsers directory workspaceId body table issueIds) :
    ∃ prev params, before id = some prev ∧ updateParams parsers directory before id prev body = .ok params ∧
      next id = some (prev.update params) ∧
      published = publishBatch body prev (prev.update params) := by
  induction issueIds generalizing table with
  | nil => contradiction
  | cons entry rest ih =>
      obtain ⟨issueId, fails⟩ := entry
      rw [batchRounds, List.mem_append] at round
      rcases round with here | later
      · rw [Option.mem_toList, Option.map_eq_some_iff] at here
        obtain ⟨⟨wroteId, wrote⟩, made, same⟩ := here
        cases same
        unfold batchUpdateIssuePublished at made
        split at made
        · contradiction
        · rename_i parsed
          split at made
          · contradiction
          · rename_i prev found
            split at made
            · contradiction
            · rename_i params paramsMade
              split at made
              · contradiction
              · rename_i succeeded
                cases made
                have stored := (Option.filter_eq_some_iff.mp found).1
                refine ⟨prev, params, stored, paramsMade, ?_, rfl⟩
                simp [batchUpdateIssue, parsed, found, paramsMade, succeeded, store, stored]
      · exact ih later

/-- What an update publishes is true of the stored row exactly where it clears no assignee and
no project and repeats no description; in a batch, the first two of these decide each round. -/
theorem events_truthful_iff (parsers : Parsers) (directory : Directory) (workspaceId : Nat)
    (body : UpdateIssueRequest) :
    (∀ (table next : Table) (id : Nat) (fails : Bool) (published : Published),
      updateIssuePublished parsers directory table workspaceId id body fails = .ok (next, published) →
      ∃ before after, table id = some before ∧ next id = some after ∧
        (FullyTruthful before after published ↔
          ¬ ClearsAssignee body before ∧ ¬ ClearsProject body before ∧ ¬ RepeatsDescription body before)) ∧
    (∀ (table : Table) (issueIds : List (String × Bool)),
      ∀ round ∈ batchRounds parsers directory workspaceId body table issueIds,
      ∃ before after, round.1 round.2.1 = some before ∧ round.2.2.2 round.2.1 = some after ∧
        (BatchTruthful before after round.2.2.1 ↔
          ¬ ClearsAssignee body before ∧ ¬ ClearsProject body before)) := by
  constructor
  · intro table next id fails published accepted
    obtain ⟨prev, params, stored, made, written, same⟩ := updateIssuePublished_ok accepted
    subst same
    exact ⟨prev, prev.update params, stored, written, publish_truthful_iff made⟩
  · rintro table issueIds ⟨before, id, published, next⟩ round
    obtain ⟨prev, params, stored, made, written, same⟩ := batchRounds_mem round
    subst same
    exact ⟨prev, prev.update params, stored, written, batch_truthful_iff made⟩

/-! An issue of member 5 in project 9, and a request that unassigns it. -/

def assignedIssue : Issue :=
  { plainIssue with
    description := some "Same"
    assigneeType := some "member"
    assigneeId := some 5
    projectId := some 9 }

def unassign : UpdateIssueRequest :=
  { emptyBody with assigneeType := some none, assigneeId := some none, projectId := some none,
                   description := some "Same" }

def onlyAssigned : Table := fun id => if id = 7 then some assignedIssue else none

def noParsers : Parsers where
  parseUUID _ := none
  parseCalendarDate _ := none

theorem events_truthful_iff_unassign :
    ∃ published before after, onlyAssigned 7 = some before ∧
      store onlyAssigned 7 ⟨none, some "Same", none, none, none, none, none, none, none, none, none, none⟩ 7 =
        some after ∧
      (FullyTruthful before after published ↔ ¬ ClearsAssignee unassign before ∧
        ¬ ClearsProject unassign before ∧ ¬ RepeatsDescription unassign before) :=
  ⟨_, (events_truthful_iff noParsers emptyDirectory 0 unassign).1 onlyAssigned _ 7 false _ rfl⟩

/-- The row loses its assignee and project and keeps its description; the flags say the opposite. -/
theorem unassign_published :
    ∃ next published, updateIssuePublished noParsers emptyDirectory onlyAssigned 0 7 unassign false =
        .ok (next, published) ∧
      (next 7).map (fun issue => (issue.assigneeId, issue.projectId, issue.description)) =
        some (none, none, some "Same") ∧
      published.flags.assigneeChanged = false ∧ published.flags.projectChanged = false ∧
      published.descriptionChanged = true :=
  ⟨_, _, rfl, by decide, by decide, by decide, by decide⟩

end MulticaOS.Issues
