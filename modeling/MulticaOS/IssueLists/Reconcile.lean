import MulticaOS.IssueLists.Patches

/-!
When an update of an issue leaves a flat window in place (`flatWindowNeedsReconcile`), and whether
the server would still answer with the same window.
-/

namespace MulticaOS.IssueLists

open IssueTable (Status Priority ActorType)

structure FlatKey where
  scope : String
  filter : IssueFlatFilter
  sort : IssueSortParam
  deriving DecidableEq

def given {Value : Type} (list : Option (List Value)) : Bool := !(list.getD []).isEmpty

def truthy (text : Option String) : Bool := (sent text).isSome

def sortReads (column : SortColumn) (patch : IssuePatch) (base : Option Issue)
    (changed : IssueChangedDims) : Bool :=
  match column with
  | .title => patchFieldChanged patch.title base Issue.title
  | .status => changed.status
  | .priority => patchFieldChanged patch.priority base Issue.priority
  | .createdAt => patchFieldChanged patch.createdAt base Issue.createdAt
  | .updatedAt => patchChangesAnyIssueField patch base
  | .startDate => patchFieldChanged patch.startDate base Issue.startDate
  | .dueDate => patchFieldChanged patch.dueDate base Issue.dueDate
  | .position => patchFieldChanged patch.position base Issue.position
  | .property _ => false

def flatWindowNeedsReconcile (key : FlatKey) (patch : IssuePatch) (base : Option Issue)
    (changed : IssueChangedDims) : Bool :=
  let filter := key.filter
  let anyIssueFieldChanged := patchChangesAnyIssueField patch base
  let dateColumn := key.sort.dateFilter.map IssueDateFilter.column
  if listFilterDependsOn (some key.scope) filter.toMyIssuesFilter changed then true
  else if truthy filter.q && patchFieldChanged patch.title base Issue.title then true
  else if changed.status && given filter.statuses then true
  else if patchFieldChanged patch.priority base Issue.priority && given filter.priorities then true
  else if changed.assignee && (given filter.assigneeFilters || filter.includeNoAssignee) then true
  else if changed.project && (given filter.projectIds || filter.includeNoProject) then true
  else if patchFieldChanged patch.parentIssueId base Issue.parentIssueId && filter.topLevelOnly then true
  else if dateColumn = some .updatedAt && anyIssueFieldChanged then true
  else if dateColumn = some .createdAt && patchFieldChanged patch.createdAt base Issue.createdAt then true
  else sortReads (key.sort.sortBy.getD .position) patch base changed

structure FlatWindow extends FlatKey where
  user : Option String

def FlatWindow.relations (window : FlatWindow) : List IssueFlatFilter :=
  if window.scope = "all" ∧ truthy window.user then
    [{ window.filter with assigneeId := window.user }, { window.filter with creatorId := window.user },
      { window.filter with involvesUserId := window.user }]
  else [window.filter]

def FlatWindow.holds (world : World) (window : FlatWindow) (issue : Issue) : Bool :=
  window.relations.any fun filter => (listIssuesParams filter window.sort).holds world issue

def FlatWindow.window (world : World) (window : FlatWindow) (issues : List Issue) : List Issue :=
  (issues.filter (window.holds world)).insertionSort fun left right =>
    (listIssuesParams window.filter window.sort).rank world left ≤
      (listIssuesParams window.filter window.sort).rank world right

/-- An update that the server has stored, with the patch that the client applies for it.  The id,
the number, the creator and the creation time of an issue never change, and `updated_at` advances
when anything else does. -/
structure PersistedUpdate where
  base : Issue
  patch : IssuePatch
  after : Issue
  fields : after = { patch.apply base with updatedAt := after.updatedAt }
  id : after.id = base.id
  number : after.number = base.number
  creatorType : after.creatorType = base.creatorType
  creatorId : after.creatorId = base.creatorId
  createdAt : after.createdAt = base.createdAt
  stamped : ∀ time ∈ patch.updatedAt, after.updatedAt = time
  advances : patch.apply base ≠ base → base.updatedAt < after.updatedAt
  still : patch.apply base = base → after.updatedAt = base.updatedAt

def PersistedUpdate.replace (update : PersistedUpdate) (issue : Issue) : Issue :=
  if issue.id = update.base.id then update.after else issue

theorem patchFieldChanged_eq {Value : Type} [DecidableEq Value] {field : Option Value}
    {base after : Issue} {of : Issue → Value} (applied : of after = field.getD (of base)) :
    patchFieldChanged field (some base) of = decide (of after ≠ of base) := by
  rw [applied]
  cases field <;> simp [patchFieldChanged]

theorem anyChanged_eq (update : PersistedUpdate) :
    patchChangesAnyIssueField update.patch (some update.base) =
      decide (update.after.updatedAt ≠ update.base.updatedAt) := by
  by_cases same : update.patch.apply update.base = update.base
  · rw [patchChangesAnyIssueField_some.mpr same]
    simp [update.still same]
  · have changes := mt patchChangesAnyIssueField_some.mp same
    have later := update.advances same
    rw [Bool.not_eq_false] at changes
    rw [changes]
    simp
    omega

/-! What a window reads of an issue, apart from a project that the scope `all` is restricted to. -/

def FlatKey.readsAssignee (key : FlatKey) : Bool :=
  key.scope = "all" || key.filter.assigneeId.isSome || key.filter.assigneeIds.isSome ||
    key.filter.assigneeTypes.isSome || key.filter.involvesUserId.isSome ||
    given key.filter.assigneeFilters || key.filter.includeNoAssignee

def FlatKey.readsProject (key : FlatKey) : Bool :=
  (key.scope ≠ "all" && key.filter.projectId.isSome) || given key.filter.projectIds ||
    key.filter.includeNoProject

def FlatKey.sortsBy (key : FlatKey) (column : SortColumn) : Bool :=
  key.sort.sortBy.getD .position = column

def FlatKey.dated (key : FlatKey) (column : DateColumn) : Bool :=
  key.sort.dateFilter.map IssueDateFilter.column = some column

@[mk_iff]
structure Quiet (key : FlatKey) (base after : Issue) : Prop where
  assignee : key.readsAssignee = true →
    after.assigneeId = base.assigneeId ∧ after.assigneeType = base.assigneeType
  project : key.readsProject = true → after.projectId = base.projectId
  title : truthy key.filter.q = true ∨ key.sortsBy .title = true → after.title = base.title
  status : given key.filter.statuses = true ∨ key.sortsBy .status = true → after.status = base.status
  priority : given key.filter.priorities = true ∨ key.sortsBy .priority = true →
    after.priority = base.priority
  parent : key.filter.topLevelOnly = true → after.parentIssueId = base.parentIssueId
  updatedAt : key.dated .updatedAt = true ∨ key.sortsBy .updatedAt = true →
    after.updatedAt = base.updatedAt
  startDate : key.sortsBy .startDate = true → after.startDate = base.startDate
  dueDate : key.sortsBy .dueDate = true → after.dueDate = base.dueDate
  position : key.sortsBy .position = true → after.position = base.position

section
variable (update : PersistedUpdate)

theorem title_changed : patchFieldChanged update.patch.title (some update.base) Issue.title =
    decide (update.after.title ≠ update.base.title) :=
  patchFieldChanged_eq (congrArg Issue.title update.fields)

theorem status_changed : patchFieldChanged update.patch.status (some update.base) Issue.status =
    decide (update.after.status ≠ update.base.status) :=
  patchFieldChanged_eq (congrArg Issue.status update.fields)

theorem priority_changed : patchFieldChanged update.patch.priority (some update.base) Issue.priority =
    decide (update.after.priority ≠ update.base.priority) :=
  patchFieldChanged_eq (congrArg Issue.priority update.fields)

theorem sortReads_iff (column : SortColumn) :
    sortReads column update.patch (some update.base) (issueChangedDims update.patch (some update.base)) =
        false ↔
      (column = .title → update.after.title = update.base.title) ∧
      (column = .status → update.after.status = update.base.status) ∧
      (column = .priority → update.after.priority = update.base.priority) ∧
      (column = .updatedAt → update.after.updatedAt = update.base.updatedAt) ∧
      (column = .startDate → update.after.startDate = update.base.startDate) ∧
      (column = .dueDate → update.after.dueDate = update.base.dueDate) ∧
      (column = .position → update.after.position = update.base.position) := by
  have fields := update.fields
  have created := patchFieldChanged_eq (congrArg Issue.createdAt fields)
  rw [update.createdAt] at created
  cases column with
  | title => simp [sortReads, title_changed]
  | status => simp [sortReads, issueChangedDims, status_changed]
  | priority => simp [sortReads, priority_changed]
  | createdAt => simp [sortReads, created]
  | updatedAt => simp [sortReads, anyChanged_eq]
  | startDate => simp [sortReads, patchFieldChanged_eq (congrArg Issue.startDate fields)]
  | dueDate => simp [sortReads, patchFieldChanged_eq (congrArg Issue.dueDate fields)]
  | position => simp [sortReads, patchFieldChanged_eq (congrArg Issue.position fields)]
  | property definition => simp [sortReads]

theorem reconcile_iff_quiet (key : FlatKey) :
    flatWindowNeedsReconcile key update.patch (some update.base)
        (issueChangedDims update.patch (some update.base)) = false ↔
      Quiet key update.base update.after := by
  have fields := update.fields
  have assigneeId := patchFieldChanged_eq (congrArg Issue.assigneeId fields)
  have assigneeType := patchFieldChanged_eq (congrArg Issue.assigneeType fields)
  have parent := patchFieldChanged_eq (congrArg Issue.parentIssueId fields)
  have project := patchFieldChanged_eq (congrArg Issue.projectId fields)
  have created := patchFieldChanged_eq (congrArg Issue.createdAt fields)
  rw [update.createdAt] at created
  simp only [flatWindowNeedsReconcile, Bool.if_true_left, Bool.or_eq_false_iff, sortReads_iff]
  simp only [issueChangedDims, listFilterDependsOn, title_changed, status_changed, priority_changed,
    assigneeId, assigneeType, parent, project, created, anyChanged_eq]
  clear fields assigneeId assigneeType parent project created
  constructor
  · rintro ⟨depends, title, status, priority, assignee, project, parent, updated, -, byTitle, byStatus,
      byPriority, byUpdated, byStart, byDue, byPosition⟩
    simp only [decide_eq_false_iff_not, Bool.and_eq_true, decide_eq_true_eq, Bool.or_eq_true] at *
    constructor
    · grind [FlatKey.readsAssignee]
    · grind [FlatKey.readsProject]
    · grind [FlatKey.sortsBy]
    · grind [FlatKey.sortsBy]
    · grind [FlatKey.sortsBy]
    · grind [FlatKey.sortsBy]
    · grind [FlatKey.sortsBy, FlatKey.dated]
    · grind [FlatKey.sortsBy]
    · grind [FlatKey.sortsBy]
    · grind [FlatKey.sortsBy]
  · rintro ⟨assignee, project, title, status, priority, parent, updated, start, due, position⟩
    simp only [FlatKey.readsAssignee, FlatKey.readsProject, FlatKey.sortsBy, FlatKey.dated] at *
    refine ⟨?_, ?_, ?_, ?_, ?_, ?_, ?_, ?_, ?_, ?_, ?_, ?_, ?_, ?_, ?_, ?_⟩ <;> grind

end

end MulticaOS.IssueLists
