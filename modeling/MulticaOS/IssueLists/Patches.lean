import MulticaOS.IssueLists.Filters

/-!
Patches of issues in the client's cache, the membership dimensions that a patch changes, and which
lists depend on them (`surface/membership.ts`).
-/

namespace MulticaOS.IssueLists

open IssueTable (Status Priority ActorType)

structure IssuePatch where
  id : Option String
  number : Option Nat
  title : Option String
  description : Option (Option String)
  status : Option Status
  priority : Option Priority
  assigneeType : Option (Option ActorType)
  assigneeId : Option (Option String)
  creatorType : Option ActorType
  creatorId : Option String
  parentIssueId : Option (Option String)
  projectId : Option (Option String)
  position : Option Rat
  startDate : Option (Option Int)
  dueDate : Option (Option Int)
  stage : Option (Option Int)
  metadata : Option String
  createdAt : Option Int
  updatedAt : Option Int
  deriving DecidableEq

def IssuePatch.empty : IssuePatch where
  id := none
  number := none
  title := none
  description := none
  status := none
  priority := none
  assigneeType := none
  assigneeId := none
  creatorType := none
  creatorId := none
  parentIssueId := none
  projectId := none
  position := none
  startDate := none
  dueDate := none
  stage := none
  metadata := none
  createdAt := none
  updatedAt := none

def IssuePatch.apply (patch : IssuePatch) (issue : Issue) : Issue where
  id := patch.id.getD issue.id
  number := patch.number.getD issue.number
  title := patch.title.getD issue.title
  description := patch.description.getD issue.description
  status := patch.status.getD issue.status
  priority := patch.priority.getD issue.priority
  assigneeType := patch.assigneeType.getD issue.assigneeType
  assigneeId := patch.assigneeId.getD issue.assigneeId
  creatorType := patch.creatorType.getD issue.creatorType
  creatorId := patch.creatorId.getD issue.creatorId
  parentIssueId := patch.parentIssueId.getD issue.parentIssueId
  projectId := patch.projectId.getD issue.projectId
  position := patch.position.getD issue.position
  startDate := patch.startDate.getD issue.startDate
  dueDate := patch.dueDate.getD issue.dueDate
  stage := patch.stage.getD issue.stage
  metadata := patch.metadata.getD issue.metadata
  createdAt := patch.createdAt.getD issue.createdAt
  updatedAt := patch.updatedAt.getD issue.updatedAt

/-- Whether a patch writes a field and writes something else than the base has; without a base
every written field counts. -/
def patchFieldChanged {Value : Type} [DecidableEq Value] (field : Option Value) (base : Option Issue)
    (of : Issue → Value) : Bool :=
  field.any fun value => base.all fun base => value ≠ of base

theorem patchFieldChanged_some {Value : Type} [DecidableEq Value] {field : Option Value} {base : Issue}
    {of : Issue → Value} :
    patchFieldChanged field (some base) of = false ↔ field.getD (of base) = of base := by
  cases field with
  | none => simp [patchFieldChanged]
  | some value => simp [patchFieldChanged]

def patchChangesAnyIssueField (patch : IssuePatch) (base : Option Issue) : Bool :=
  patchFieldChanged patch.id base Issue.id || patchFieldChanged patch.number base Issue.number ||
    patchFieldChanged patch.title base Issue.title ||
    patchFieldChanged patch.description base Issue.description ||
    patchFieldChanged patch.status base Issue.status ||
    patchFieldChanged patch.priority base Issue.priority ||
    patchFieldChanged patch.assigneeType base Issue.assigneeType ||
    patchFieldChanged patch.assigneeId base Issue.assigneeId ||
    patchFieldChanged patch.creatorType base Issue.creatorType ||
    patchFieldChanged patch.creatorId base Issue.creatorId ||
    patchFieldChanged patch.parentIssueId base Issue.parentIssueId ||
    patchFieldChanged patch.projectId base Issue.projectId ||
    patchFieldChanged patch.position base Issue.position ||
    patchFieldChanged patch.startDate base Issue.startDate ||
    patchFieldChanged patch.dueDate base Issue.dueDate ||
    patchFieldChanged patch.stage base Issue.stage ||
    patchFieldChanged patch.metadata base Issue.metadata ||
    patchFieldChanged patch.createdAt base Issue.createdAt ||
    patchFieldChanged patch.updatedAt base Issue.updatedAt

theorem patchChangesAnyIssueField_some {patch : IssuePatch} {base : Issue} :
    patchChangesAnyIssueField patch (some base) = false ↔ patch.apply base = base := by
  cases base
  simp [patchChangesAnyIssueField, patchFieldChanged_some, IssuePatch.apply, and_assoc]

structure IssueChangedDims where
  assignee : Bool
  project : Bool
  status : Bool
  deriving DecidableEq

def issueChangedDims (patch : IssuePatch) (base : Option Issue) : IssueChangedDims where
  assignee := patchFieldChanged patch.assigneeId base Issue.assigneeId ||
    patchFieldChanged patch.assigneeType base Issue.assigneeType
  project := patchFieldChanged patch.projectId base Issue.projectId
  status := patchFieldChanged patch.status base Issue.status

/-- Whether a list's contract depends on a changed dimension.  `all` is the union of the issues
assigned to, created by and involving the user. -/
def listFilterDependsOn (scope : Option String) (filter : MyIssuesFilter)
    (changed : IssueChangedDims) : Bool :=
  if scope = some "all" then changed.assignee
  else if changed.assignee && (filter.assigneeId.isSome || filter.assigneeIds.isSome ||
      filter.assigneeTypes.isSome || filter.involvesUserId.isSome) then true
  else changed.project && filter.projectId.isSome

end MulticaOS.IssueLists
