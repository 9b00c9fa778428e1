import MulticaOS.IssueLists.Reconcile

/-!
The window that the server answers with before and after an update that the client does not
reconcile.
-/

namespace MulticaOS.IssueLists

open IssueTable (Status Priority ActorType)

/-! The predicate of a request looks at the fields that its parameters name. -/

structure Kept (params : ListIssuesParams) (base after : Issue) : Prop where
  id : after.id = base.id
  number : after.number = base.number
  creatorType : after.creatorType = base.creatorType
  creatorId : after.creatorId = base.creatorId
  createdAt : after.createdAt = base.createdAt
  title : params.q.isSome = true → after.title = base.title
  status : params.statuses ≠ [] → after.status = base.status
  priority : params.priorities ≠ [] → after.priority = base.priority
  assignee : params.assigneeId.isSome = true ∨ params.assigneeIds ≠ [] ∨ params.assigneeTypes ≠ [] ∨
      params.assigneeFilters ≠ [] ∨ params.includeNoAssignee = true ∨ params.involvesUserId.isSome = true →
    after.assigneeType = base.assigneeType ∧ after.assigneeId = base.assigneeId
  project : params.projectId.isSome = true ∨ params.projectIds ≠ [] ∨ params.includeNoProject = true →
    after.projectId = base.projectId
  parent : params.topLevelOnly = true → after.parentIssueId = base.parentIssueId
  unscheduled : params.scheduled = false
  updatedAt : params.dateFilter.map IssueDateFilter.column = some .updatedAt →
    after.updatedAt = base.updatedAt

section
variable {world : World} {params : ListIssuesParams} {base after : Issue}

theorem oneOf_kept {Value : Type} [BEq Value] {list : List Value} {before after : Option Value}
    (kept : list ≠ [] → after = before) : oneOf list after = oneOf list before := by
  by_cases empty : list = []
  · simp [oneOf, empty]
  · rw [kept empty]

theorem Kept.assigneeHolds (kept : Kept params base after) :
    assigneeHolds params after = assigneeHolds params base := by
  have same := kept.assignee
  by_cases reads : params.assigneeId.isSome = true ∨ params.assigneeIds ≠ [] ∨ params.assigneeTypes ≠ [] ∨
      params.assigneeFilters ≠ [] ∨ params.includeNoAssignee = true ∨ params.involvesUserId.isSome = true
  · rw [IssueLists.assigneeHolds, (same reads).1, (same reads).2]
    rfl
  · simp only [not_or, not_not, Bool.not_eq_true, Option.isSome_eq_false_iff, Option.isNone_iff_eq_none]
      at reads
    obtain ⟨id, ids, types, filters, unassigned, -⟩ := reads
    simp [IssueLists.assigneeHolds, id, ids, types, filters, unassigned, oneOf]

theorem Kept.projectHolds (kept : Kept params base after) :
    projectHolds params after = projectHolds params base := by
  have same := kept.project
  by_cases reads : params.projectId.isSome = true ∨ params.projectIds ≠ [] ∨
      params.includeNoProject = true
  · rw [IssueLists.projectHolds, same reads]
    rfl
  · simp only [not_or, not_not, Bool.not_eq_true, Option.isSome_eq_false_iff, Option.isNone_iff_eq_none]
      at reads
    obtain ⟨id, ids, without⟩ := reads
    simp [IssueLists.projectHolds, id, ids, without]

theorem Kept.dateHolds (kept : Kept params base after) :
    params.dateFilter.all (fun filter => filter.holds after) =
      params.dateFilter.all fun filter => filter.holds base := by
  cases window : params.dateFilter with
  | none => rfl
  | some filter =>
      cases column : filter.column with
      | createdAt => simp [IssueDateFilter.holds, column, kept.createdAt]
      | updatedAt => simp [IssueDateFilter.holds, column, kept.updatedAt (by simp [window, column])]

theorem Kept.holds (kept : Kept params base after) :
    params.holds world after = params.holds world base := by
  have search : params.q.all (fun query => searchHolds world query after.title after.number) =
      params.q.all fun query => searchHolds world query base.title base.number := by
    cases q : params.q with
    | none => rfl
    | some query => rw [kept.title (by simp [q]), kept.number]
  have parent : (!params.topLevelOnly || after.parentIssueId.isNone) =
      (!params.topLevelOnly || base.parentIssueId.isNone) := by
    cases top : params.topLevelOnly with
    | false => rfl
    | true => rw [kept.parent top]
  have involved : params.involvesUserId.all
        (fun user => world.involves user after.assigneeType after.assigneeId) =
      params.involvesUserId.all fun user => world.involves user base.assigneeType base.assigneeId := by
    cases user : params.involvesUserId with
    | none => rfl
    | some user' =>
        have same := kept.assignee (by simp [user])
        rw [same.1, same.2]
  have status := @oneOf_kept _ _ params.statuses (some base.status) (some after.status)
    fun given => congrArg some (kept.status given)
  have priority := @oneOf_kept _ _ params.priorities (some base.priority) (some after.priority)
    fun given => congrArg some (kept.priority given)
  simp only [ListIssuesParams.holds, search, parent, involved, status, priority, kept.assigneeHolds,
    kept.projectHolds, kept.dateHolds, kept.id, kept.creatorType, kept.creatorId, kept.unscheduled]
  rfl

end

/-! A window of the scope `all` that is also restricted to a project. -/

def FlatWindow.inProject (window : FlatWindow) (issue : Issue) : Bool :=
  (sent window.filter.projectId).all fun id => issue.projectId = some id

def FlatWindow.withoutProject (window : FlatWindow) : FlatWindow :=
  { window with filter := { window.filter with projectId := none } }

theorem holds_project_split (world : World) (filter : IssueFlatFilter) (sort : IssueSortParam)
    (issue : Issue) :
    (listIssuesParams filter sort).holds world issue =
      ((listIssuesParams { filter with projectId := none } sort).holds world issue &&
        (sent filter.projectId).all fun id => issue.projectId = some id) := by
  have nothing : sent none = none := rfl
  simp only [ListIssuesParams.holds, listIssuesParams, projectHolds, assigneeHolds, nothing,
    Option.all_none, Bool.true_and]
  ac_rfl

theorem withoutProject_relations (window : FlatWindow) :
    window.withoutProject.relations =
      window.relations.map fun filter => { filter with projectId := none } := by
  by_cases union : window.scope = "all" ∧ truthy window.user = true
  · have same : window.withoutProject.scope = "all" ∧ truthy window.withoutProject.user = true := union
    rw [FlatWindow.relations, if_pos same, FlatWindow.relations, if_pos union]
    rfl
  · have same : ¬(window.withoutProject.scope = "all" ∧ truthy window.withoutProject.user = true) := union
    rw [FlatWindow.relations, if_neg same, FlatWindow.relations, if_neg union]
    rfl

/-- The requests of a window have its facets, and outside the scope `all` its filter. -/
structure Relation (window : FlatWindow) (filter : IssueFlatFilter) : Prop where
  q : filter.q = window.filter.q
  statuses : filter.statuses = window.filter.statuses
  priorities : filter.priorities = window.filter.priorities
  projectId : filter.projectId = window.filter.projectId
  projectIds : filter.projectIds = window.filter.projectIds
  includeNoProject : filter.includeNoProject = window.filter.includeNoProject
  topLevelOnly : filter.topLevelOnly = window.filter.topLevelOnly
  narrowed : window.scope = "all" ∨ filter = window.filter

theorem relation_of_mem {window : FlatWindow} {filter : IssueFlatFilter}
    (related : filter ∈ window.relations) : Relation window filter := by
  by_cases union : window.scope = "all" ∧ truthy window.user = true
  · rw [FlatWindow.relations, if_pos union] at related
    simp only [List.mem_cons, List.not_mem_nil, or_false] at related
    rcases related with rfl | rfl | rfl <;> exact ⟨rfl, rfl, rfl, rfl, rfl, rfl, rfl, .inl union.1⟩
  · rw [FlatWindow.relations, if_neg union, List.mem_singleton] at related
    subst related
    exact ⟨rfl, rfl, rfl, rfl, rfl, rfl, rfl, .inr rfl⟩

theorem FlatWindow.holds_project (world : World) (window : FlatWindow) (issue : Issue) :
    window.holds world issue =
      (window.withoutProject.holds world issue && window.inProject issue) := by
  have split : ∀ filter ∈ window.relations,
      (listIssuesParams filter window.sort).holds world issue =
        ((listIssuesParams { filter with projectId := none } window.sort).holds world issue &&
          window.inProject issue) := by
    intro filter related
    rw [holds_project_split, (relation_of_mem related).projectId]
    rfl
  rw [FlatWindow.holds, FlatWindow.holds, withoutProject_relations, List.any_map, Bool.eq_iff_iff,
    Bool.and_eq_true, List.any_eq_true, List.any_eq_true]
  constructor
  · rintro ⟨filter, related, holds⟩
    rw [split filter related, Bool.and_eq_true] at holds
    exact ⟨⟨filter, related, holds.1⟩, holds.2⟩
  · rintro ⟨⟨filter, related, holds⟩, inside⟩
    refine ⟨filter, related, ?_⟩
    rw [split filter related, Bool.and_eq_true]
    exact ⟨holds, inside⟩

theorem sentQuery_truthy {q : Option String} (some : (sentQuery q).isSome = true) : truthy q = true := by
  cases q with
  | none => simp [sentQuery, sent] at some
  | some q =>
      by_cases empty : q = ""
      · subst empty
        revert some
        decide
      · simp [truthy, sent, Option.filter, empty]

theorem sent_isSome {text : Option String} (some : (sent text).isSome = true) : text.isSome = true := by
  cases text with
  | none => exact some
  | some text => rfl

theorem given_of_ne {Value : Type} {list : Option (List Value)} (some : list.getD [] ≠ []) :
    given list = true := by
  simpa [given] using some

theorem isSome_of_ne {Value : Type} {list : Option (List Value)} (some : list.getD [] ≠ []) :
    list.isSome = true := by
  cases list with
  | none => exact absurd rfl some
  | some list => rfl

section
variable (update : PersistedUpdate) {window : FlatWindow}

theorem quiet_kept (quiet : Quiet window.toFlatKey update.base update.after) {filter : IssueFlatFilter}
    (related : filter ∈ window.relations) :
    Kept (listIssuesParams { filter with projectId := none } window.sort) update.base update.after := by
  have relation := relation_of_mem related
  constructor
  · exact update.id
  · exact update.number
  · exact update.creatorType
  · exact update.creatorId
  · exact update.createdAt
  · intro searched
    exact quiet.title (.inl (sentQuery_truthy (relation.q ▸ searched)))
  · intro some
    exact quiet.status (.inl (given_of_ne (relation.statuses ▸ some)))
  · intro some
    exact quiet.priority (.inl (given_of_ne (relation.priorities ▸ some)))
  · intro reads
    have read : window.toFlatKey.readsAssignee = true := by
      rcases relation.narrowed with all | rfl
      · simp [FlatKey.readsAssignee, all]
      · simp only [FlatKey.readsAssignee, Bool.or_eq_true]
        rcases reads with reads | reads | reads | reads | reads | reads
        · simp [sent_isSome reads]
        · simp [isSome_of_ne reads]
        · simp [isSome_of_ne reads]
        · simp [given_of_ne reads]
        · exact .inr reads
        · simp [sent_isSome reads]
    exact (quiet.assignee read).symm
  · intro reads
    apply quiet.project
    simp only [FlatKey.readsProject, Bool.or_eq_true]
    rcases reads with reads | reads | reads
    · exact absurd reads (by simp [listIssuesParams, sent])
    · exact .inl (.inr (given_of_ne (relation.projectIds ▸ reads)))
    · exact .inr (relation.includeNoProject ▸ reads)
  · intro top
    exact quiet.parent (relation.topLevelOnly ▸ top)
  · rfl
  · intro dated
    have read : window.toFlatKey.dated .updatedAt = true := by
      rw [FlatKey.dated, decide_eq_true_eq]
      exact dated
    exact quiet.updatedAt (.inl read)

theorem quiet_withoutProject (world : World) (quiet : Quiet window.toFlatKey update.base update.after) :
    window.withoutProject.holds world update.after = window.withoutProject.holds world update.base := by
  have same : ∀ filter ∈ window.relations,
      (listIssuesParams { filter with projectId := none } window.sort).holds world update.after =
        (listIssuesParams { filter with projectId := none } window.sort).holds world update.base :=
    fun filter related => (quiet_kept update quiet related).holds
  rw [FlatWindow.holds, FlatWindow.holds, withoutProject_relations, List.any_map, List.any_map,
    Bool.eq_iff_iff, List.any_eq_true, List.any_eq_true]
  exact exists_congr fun filter => and_congr_right fun related =>
    iff_of_eq (congrArg (· = true) (same filter related))

theorem quiet_inProject (quiet : Quiet window.toFlatKey update.base update.after)
    (narrow : window.scope ≠ "all") :
    window.inProject update.after = window.inProject update.base := by
  cases project : window.filter.projectId with
  | none => simp [FlatWindow.inProject, project, sent]
  | some id =>
      have read : window.toFlatKey.readsProject = true := by
        simp [FlatKey.readsProject, narrow, project]
      rw [FlatWindow.inProject, quiet.project read]
      rfl

theorem quiet_rank (world : World) (quiet : Quiet window.toFlatKey update.base update.after)
    (plain : ∀ definition, window.sort.sortBy ≠ some (.property definition)) :
    (listIssuesParams window.filter window.sort).rank world update.after =
      (listIssuesParams window.filter window.sort).rank world update.base := by
  have column : window.sort.sortBy.getD .position = (listIssuesParams window.filter window.sort).sort := rfl
  have read : ∀ column, window.sort.sortBy.getD .position = column →
      window.toFlatKey.sortsBy column = true := by
    intro column same
    simpa [FlatKey.sortsBy] using same
  have place : (listIssuesParams window.filter window.sort).sort.place world update.after =
      (listIssuesParams window.filter window.sort).sort.place world update.base := by
    rw [← column]
    cases sort : window.sort.sortBy.getD .position with
    | position => simp [SortColumn.place, quiet.position (read _ sort)]
    | title => simp [SortColumn.place, quiet.title (.inr (read _ sort))]
    | createdAt => simp [SortColumn.place, update.createdAt]
    | updatedAt => simp [SortColumn.place, quiet.updatedAt (.inr (read _ sort))]
    | startDate => simp [SortColumn.place, quiet.startDate (read _ sort)]
    | dueDate => simp [SortColumn.place, quiet.dueDate (read _ sort)]
    | status => simp [SortColumn.place, quiet.status (.inr (read _ sort))]
    | priority => simp [SortColumn.place, quiet.priority (.inr (read _ sort))]
    | property definition =>
        cases sortBy : window.sort.sortBy with
        | none => simp [sortBy] at sort
        | some other =>
            rw [sortBy, Option.getD_some] at sort
            exact absurd (sort ▸ sortBy) (plain definition)
  rw [ListIssuesParams.rank, place, update.createdAt, update.id]
  rfl

end

section
variable (world : World) (window : FlatWindow) (update : PersistedUpdate) (rows : IssueRows)

def SameWindow : Prop :=
  (window.window world (rows.issues.map update.replace)).map Issue.id =
    (window.window world rows.issues).map Issue.id

/-- The update moves an issue that the window otherwise matches across the project of a window of
the scope `all`, and changes nothing else that the window reads. -/
structure Missed : Prop where
  all : window.scope = "all"
  crosses : window.inProject update.after ≠ window.inProject update.base
  otherwise : window.withoutProject.holds world update.base = true
  quiet : Quiet window.toFlatKey update.base update.after

variable {world window update rows}

theorem replace_id (issue : Issue) : (update.replace issue).id = issue.id := by
  rw [PersistedUpdate.replace]
  split
  · next same => rw [update.id, same]
  · rfl

theorem replace_of_mem (stored : update.base ∈ rows.issues) {issue : Issue} (listed : issue ∈ rows.issues) :
    (issue = update.base ∧ update.replace issue = update.after) ∨
      (issue.id ≠ update.base.id ∧ update.replace issue = issue) := by
  by_cases same : issue.id = update.base.id
  · left
    exact ⟨List.inj_on_of_nodup_map rows.ids listed stored same, if_pos same⟩
  · right
    exact ⟨same, if_neg same⟩

theorem sameWindow_of_kept (stored : update.base ∈ rows.issues)
    (holds : window.holds world update.after = window.holds world update.base)
    (rank : (listIssuesParams window.filter window.sort).rank world update.after =
      (listIssuesParams window.filter window.sort).rank world update.base) :
    SameWindow world window update rows := by
  have matching : ∀ issue ∈ rows.issues,
      (window.holds world ∘ update.replace) issue = window.holds world issue := by
    intro issue listed
    rw [Function.comp_apply]
    rcases replace_of_mem stored listed with ⟨rfl, replaced⟩ | ⟨-, replaced⟩
    · rw [replaced, holds]
    · rw [replaced]
  have ranked : ∀ issue ∈ rows.issues,
      (listIssuesParams window.filter window.sort).rank world (update.replace issue) =
        (listIssuesParams window.filter window.sort).rank world issue := by
    intro issue listed
    rcases replace_of_mem stored listed with ⟨rfl, replaced⟩ | ⟨-, replaced⟩
    · rw [replaced, rank]
    · rw [replaced]
  have moved : window.window world (rows.issues.map update.replace) =
      (window.window world rows.issues).map update.replace := by
    rw [FlatWindow.window, FlatWindow.window, List.filter_map, List.filter_congr matching]
    symm
    apply List.map_insertionSort
    intro left leftListed right rightListed
    rw [ranked left (List.mem_of_mem_filter leftListed), ranked right (List.mem_of_mem_filter rightListed)]
  rw [SameWindow, moved, List.map_map]
  exact List.map_congr_left fun issue _ => replace_id issue

theorem base_in_window (stored : update.base ∈ rows.issues) :
    update.base.id ∈ (window.window world rows.issues).map Issue.id ↔
      window.holds world update.base = true := by
  simp only [FlatWindow.window, List.mem_map, List.mem_insertionSort, List.mem_filter]
  constructor
  · rintro ⟨issue, ⟨listed, holds⟩, same⟩
    rwa [List.inj_on_of_nodup_map rows.ids listed stored same] at holds
  · intro holds
    exact ⟨update.base, ⟨stored, holds⟩, rfl⟩

theorem after_in_window (stored : update.base ∈ rows.issues) :
    update.base.id ∈ (window.window world (rows.issues.map update.replace)).map Issue.id ↔
      window.holds world update.after = true := by
  simp only [FlatWindow.window, List.mem_map, List.mem_insertionSort, List.mem_filter]
  constructor
  · rintro ⟨_, ⟨⟨issue, listed, rfl⟩, holds⟩, same⟩
    rw [replace_id] at same
    rcases replace_of_mem stored listed with ⟨-, replaced⟩ | ⟨other, -⟩
    · rwa [replaced] at holds
    · exact absurd same other
  · intro holds
    exact ⟨update.after, ⟨⟨update.base, stored, if_pos rfl⟩, holds⟩, update.id⟩

theorem left_window_same_iff (stored : update.base ∈ rows.issues)
    (plain : ∀ definition, window.sort.sortBy ≠ some (.property definition)) :
    (flatWindowNeedsReconcile window.toFlatKey update.patch (some update.base)
        (issueChangedDims update.patch (some update.base)) = false →
      SameWindow world window update rows) ↔ ¬Missed world window update := by
  rw [reconcile_iff_quiet]
  constructor
  · intro same missed
    have before := @base_in_window world window update rows stored
    have later := @after_in_window world window update rows stored
    have kept := quiet_withoutProject update world missed.quiet
    rw [FlatWindow.holds_project, missed.otherwise, Bool.true_and] at before
    rw [FlatWindow.holds_project, kept, missed.otherwise, Bool.true_and, same missed.quiet] at later
    exact missed.crosses (Bool.eq_iff_iff.mpr (later.symm.trans before))
  · intro seen quiet
    apply sameWindow_of_kept stored _ (quiet_rank update world quiet plain)
    have kept := quiet_withoutProject update world quiet
    rw [FlatWindow.holds_project, FlatWindow.holds_project world window update.base, kept]
    by_cases otherwise : window.withoutProject.holds world update.base = true
    · by_cases all : window.scope = "all"
      · by_contra crosses
        refine seen ⟨all, fun same => crosses ?_, otherwise, quiet⟩
        rw [same]
      · rw [quiet_inProject update quiet all]
    · rw [Bool.not_eq_true] at otherwise
      rw [otherwise, Bool.false_and, Bool.false_and]

end

/-! Ada's own issues of a project: one of them leaves the project. -/

def surveyRows : IssueRows where
  issues := [survey]
  ids := by decide

def ownBridgeIssues : FlatWindow where
  scope := "all"
  filter := { IssueFlatFilter.empty with projectId := some "bridge" }
  sort := IssueSortParam.empty
  user := some "ada"

def leavesBridge : PersistedUpdate where
  base := survey
  patch := { IssuePatch.empty with projectId := some none }
  after := { survey with projectId := none, updatedAt := 1 }
  fields := by decide
  id := rfl
  number := rfl
  creatorType := rfl
  creatorId := rfl
  createdAt := rfl
  stamped := by simp [IssuePatch.empty]
  advances := by intro; decide
  still := by intro same; revert same; decide

theorem left_window_keeps_issue :
    flatWindowNeedsReconcile ownBridgeIssues.toFlatKey leavesBridge.patch (some leavesBridge.base)
        (issueChangedDims leavesBridge.patch (some leavesBridge.base)) = false ∧
      ¬SameWindow plainWorld ownBridgeIssues leavesBridge surveyRows := by
  refine ⟨by decide +kernel, fun same => ?_⟩
  have stored : leavesBridge.base ∈ surveyRows.issues := List.mem_singleton.mpr rfl
  have before : ownBridgeIssues.holds plainWorld leavesBridge.base = true := by decide +kernel
  have later : ownBridgeIssues.holds plainWorld leavesBridge.after = false := by decide +kernel
  have listed := (base_in_window stored).mpr before
  rw [← same, after_in_window stored, later] at listed
  cases listed

theorem left_window_same_iff_survey :
    (flatWindowNeedsReconcile ownBridgeIssues.toFlatKey leavesBridge.patch (some leavesBridge.base)
        (issueChangedDims leavesBridge.patch (some leavesBridge.base)) = false →
      SameWindow plainWorld ownBridgeIssues leavesBridge surveyRows) ↔
        ¬Missed plainWorld ownBridgeIssues leavesBridge :=
  left_window_same_iff (List.mem_singleton.mpr rfl) fun _ same => by cases same

end MulticaOS.IssueLists
