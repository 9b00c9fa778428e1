import MulticaOS.IssueTable.Tables

/-!
`GET /api/issues`: which issues a request matches, in which order, and the page it answers
with.
-/

namespace MulticaOS.IssueLists

open IssueTable (Status Priority ActorType)

/-- An issue as the server stores it and the client holds it; times are microseconds, dates are
days. -/
structure Issue where
  id : String
  number : Nat
  title : String
  description : Option String
  status : Status
  priority : Priority
  assigneeType : Option ActorType
  assigneeId : Option String
  creatorType : ActorType
  creatorId : String
  parentIssueId : Option String
  projectId : Option String
  position : Rat
  startDate : Option Int
  dueDate : Option Int
  stage : Option Int
  metadata : String
  createdAt : Int
  updatedAt : Int
  deriving DecidableEq

structure IssueRows where
  issues : List Issue
  ids : (issues.map Issue.id).Nodup

/-- What the database knows apart from the issues: the place of a title in its collation, the labels
and custom properties by the id of an issue, and the agents and squads through which an assignment
involves a user.  An unknown property definition gives no place at all. -/
structure World where
  lower : String → String
  titlePlace : String → Rat
  labels : String → List String
  propertyMatches : String → List String → String → Bool
  propertyPlace : String → Option (String → Option Rat)
  involves : String → Option ActorType → Option String → Bool

inductive DateColumn where
  | createdAt
  | updatedAt
  deriving DecidableEq

/-- The window `[start, stop)` of a column; the server refuses an empty one. -/
structure IssueDateFilter where
  column : DateColumn
  start : Int
  stop : Int
  ordered : start < stop
  deriving DecidableEq

inductive SortColumn where
  | position
  | title
  | createdAt
  | updatedAt
  | startDate
  | dueDate
  | status
  | priority
  | property (definition : String)
  deriving DecidableEq

structure ListIssuesParams where
  q : Option String
  statuses : List Status
  priorities : List Priority
  assigneeId : Option String
  assigneeIds : List String
  assigneeTypes : List ActorType
  creatorId : Option String
  projectId : Option String
  assigneeFilters : List (ActorType × String)
  includeNoAssignee : Bool
  creatorFilters : List (ActorType × String)
  projectIds : List String
  includeNoProject : Bool
  labelIds : List String
  ids : Option (List String)
  topLevelOnly : Bool
  scheduled : Bool
  properties : List (String × List String)
  dateFilter : Option IssueDateFilter
  involvesUserId : Option String
  sort : SortColumn
  descending : Bool

def splitSearchTerms (query : String) : List (List Char) :=
  (query.toList.splitOnP GoLib.isSpace).filter fun term => term ≠ []

/-- `^[a-z]+-(\d+)$` in any case, or a number alone. -/
def parseQueryNumber (query : String) : Option Int :=
  let digits := query.toList.dropWhile fun char => ('a' ≤ char && char ≤ 'z') || ('A' ≤ char && char ≤ 'Z')
  let identifier := match digits with
    | '-' :: number =>
        if digits.length < query.toList.length ∧ number ≠ [] ∧ number.all Char.isDigit then
          GoLib.parseInt (String.ofList number)
        else none
    | _ => none
  match identifier.filter fun number => 0 < number with
  | some number => some number
  | none => (GoLib.parseInt query).filter fun number => 0 < number

def searchHolds (world : World) (query : String) (title : String) (number : Nat) : Bool :=
  let query := GoLib.trimSpace query
  let words := splitSearchTerms (world.lower query)
  query = "" || words.all (fun word => GoLib.contains (world.lower title).toList word) ||
    parseQueryNumber query = some (number : Int)

def IssueDateFilter.holds (filter : IssueDateFilter) (issue : Issue) : Bool :=
  let time := match filter.column with
    | .createdAt => issue.createdAt
    | .updatedAt => issue.updatedAt
  filter.start ≤ time && time < filter.stop

def oneOf {Value : Type} [BEq Value] (list : List Value) (value : Option Value) : Bool :=
  list.isEmpty || value.any list.contains

def actorIn (filters : List (ActorType × String)) (kind : Option ActorType) (id : Option String) : Bool :=
  filters.any fun filter => kind = some filter.1 && id = some filter.2

def assigneeHolds (params : ListIssuesParams) (issue : Issue) : Bool :=
  params.assigneeId.all (fun id => issue.assigneeId = some id) &&
    oneOf params.assigneeIds issue.assigneeId && oneOf params.assigneeTypes issue.assigneeType &&
    ((params.assigneeFilters.isEmpty && !params.includeNoAssignee) ||
      actorIn params.assigneeFilters issue.assigneeType issue.assigneeId ||
      (params.includeNoAssignee && issue.assigneeType.isNone && issue.assigneeId.isNone))

def projectHolds (params : ListIssuesParams) (issue : Issue) : Bool :=
  params.projectId.all (fun id => issue.projectId = some id) &&
    ((params.projectIds.isEmpty && !params.includeNoProject) ||
      issue.projectId.any params.projectIds.contains ||
      (params.includeNoProject && issue.projectId.isNone))

def ListIssuesParams.holds (world : World) (params : ListIssuesParams) (issue : Issue) : Bool :=
  oneOf params.statuses (some issue.status) && oneOf params.priorities (some issue.priority) &&
    assigneeHolds params issue &&
    params.creatorId.all (fun id => issue.creatorId = id) &&
    (params.creatorFilters.isEmpty ||
      actorIn params.creatorFilters (some issue.creatorType) (some issue.creatorId)) &&
    projectHolds params issue &&
    (params.labelIds.isEmpty || (world.labels issue.id).any params.labelIds.contains) &&
    params.ids.all (fun ids => ids.contains issue.id) &&
    (!params.topLevelOnly || issue.parentIssueId.isNone) &&
    params.q.all (fun query => searchHolds world query issue.title issue.number) &&
    (!params.scheduled || issue.startDate.isSome || issue.dueDate.isSome) &&
    params.properties.all (fun wanted => world.propertyMatches wanted.1 wanted.2 issue.id) &&
    params.dateFilter.all (fun filter => filter.holds issue) &&
    params.involvesUserId.all (fun user => world.involves user issue.assigneeType issue.assigneeId)

def statusPlace : Status → Rat
  | .backlog => 0
  | .todo => 1
  | .inProgress => 2
  | .inReview => 3
  | .done => 4
  | .blocked => 5
  | .cancelled => 6

def priorityPlace : Priority → Rat
  | .urgent => 0
  | .high => 1
  | .medium => 2
  | .low => 3
  | .none => 4

/-- The value of the sort column; only dates and properties may be missing.  An unknown property
sorts by position. -/
def SortColumn.place (world : World) (issue : Issue) : SortColumn → Option Rat
  | .position => some issue.position
  | .title => some (world.titlePlace issue.title)
  | .createdAt => some issue.createdAt
  | .updatedAt => some issue.updatedAt
  | .startDate => issue.startDate.map Int.cast
  | .dueDate => issue.dueDate.map Int.cast
  | .status => some (statusPlace issue.status)
  | .priority => some (priorityPlace issue.priority)
  | .property definition => match world.propertyPlace definition with
      | none => some issue.position
      | some place => place issue.id

def SortColumn.descends (world : World) (descending : Bool) : SortColumn → Bool
  | .position => false
  | .property definition => (world.propertyPlace definition).isSome && descending
  | _ => descending

abbrev Rank := WithTop Rat ×ₗ (Intᵒᵈ ×ₗ Stringᵒᵈ)

/-- The place of an issue by `ORDER BY column direction NULLS LAST, created_at DESC, id DESC`. -/
def ListIssuesParams.rank (world : World) (params : ListIssuesParams) (issue : Issue) : Rank :=
  let column : WithTop Rat := match params.sort.place world issue with
    | none => ⊤
    | some place => (if params.sort.descends world params.descending then -place else place : Rat)
  toLex (column, toLex (OrderDual.toDual issue.createdAt, OrderDual.toDual issue.id))

structure ListIssuesResponse where
  issues : List Issue
  total : Nat
  deriving DecidableEq

def maxLimit : Nat := 100

def serverLimit (limit : Nat) : Nat := if limit = 0 then maxLimit else min limit maxLimit

def ListIssuesParams.window (world : World) (params : ListIssuesParams) (issues : List Issue) :
    List Issue :=
  (issues.filter (params.holds world)).insertionSort fun left right =>
    params.rank world left ≤ params.rank world right

def listIssues (world : World) (params : ListIssuesParams) (issues : List Issue) (limit offset : Nat) :
    ListIssuesResponse where
  issues := ((params.window world issues).drop offset).take (serverLimit limit)
  total := (issues.filter (params.holds world)).length

/-! The window holds the matching issues once each, in strictly ascending order. -/

section
variable {world : World} {params : ListIssuesParams} {rows : IssueRows}

theorem rank_injective {left right : Issue}
    (same : params.rank world left = params.rank world right) : left.id = right.id := by
  have second := congrArg (fun rank : Rank => (ofLex (ofLex rank).2).2) same
  exact OrderDual.toDual_inj.mp second

theorem mem_window {issues : List Issue} {issue : Issue} :
    issue ∈ params.window world issues ↔ issue ∈ issues ∧ params.holds world issue = true := by
  rw [ListIssuesParams.window, List.mem_insertionSort, List.mem_filter]

theorem window_length (issues : List Issue) :
    (params.window world issues).length = (issues.filter (params.holds world)).length := by
  rw [ListIssuesParams.window, List.length_insertionSort]

theorem window_ids : ((params.window world rows.issues).map Issue.id).Nodup := by
  have sorted := List.perm_insertionSort (fun left right => params.rank world left ≤ params.rank world right)
    (rows.issues.filter (params.holds world))
  have kept := (List.filter_sublist (p := params.holds world) (l := rows.issues)).map Issue.id
  exact (sorted.map Issue.id).nodup_iff.mpr (kept.nodup rows.ids)

theorem window_ascending :
    (params.window world rows.issues).Pairwise fun left right =>
      params.rank world left < params.rank world right := by
  have sorted : (params.window world rows.issues).Pairwise fun left right =>
      params.rank world left ≤ params.rank world right := List.pairwise_insertionSort _ _
  have distinct := List.pairwise_map.mp (@window_ids world params rows)
  refine sorted.imp₂ (fun left right below other => ?_) distinct
  exact lt_of_le_of_ne below fun same => other (rank_injective same)

end

def plainWorld : World where
  lower := id
  titlePlace := fun _ => 0
  labels := fun _ => []
  propertyMatches := fun _ _ _ => true
  propertyPlace := fun _ => none
  involves := fun _ _ _ => false

def survey : Issue where
  id := "survey"
  number := 1
  title := "Survey"
  description := none
  status := .todo
  priority := .none
  assigneeType := some .member
  assigneeId := some "ada"
  creatorType := .member
  creatorId := "ada"
  parentIssueId := none
  projectId := some "bridge"
  position := 1
  startDate := none
  dueDate := none
  stage := none
  metadata := "{}"
  createdAt := 0
  updatedAt := 0

end MulticaOS.IssueLists
