import MulticaOS.IssueLists.Server
import MulticaOS.IssueTable.Groups

/-!
The `WHERE` of a table query, translated from `compileIssueTableQuery`.  A clause refuses the
request or says which issues it is true of; an absent list and an empty one are the same to all
clauses but those of the assignees and of the working issues.
-/

namespace MulticaOS.IssueTable

open GoLib
open IssueLists (splitSearchTerms parseQueryNumber)
open Properties (Json PropertyType)

def Priority.name : Priority → String
  | .urgent => "urgent"
  | .high => "high"
  | .medium => "medium"
  | .low => "low"
  | .none => "none"

def validIssuePriorities : List Priority := [.urgent, .high, .medium, .low, .none]

section Data

variable (Id : Type)

structure TableIssue extends Issue Id where
  creatorType : ActorType
  creatorID : Id
  labels : List Id

structure Squad where
  id : Id
  leaderID : Id
  members : List (ActorType × Id)

structure TableSnapshot where
  issues : List (TableIssue Id)
  ids : (issues.map fun issue => issue.id).Nodup
  definitions : List (Property Id)
  owner : Id → Option Id
  agents : List Id
  squads : List (Squad Id)
  running : List Id

end Data

structure ActorRef where
  type : String
  id : String
  deriving DecidableEq

structure Scope where
  kind : String
  assigneeTypes : List String
  projectID : String
  actor : Option ActorRef
  relation : String

structure DateFilterRequest where
  field : String
  start : String
  stop : String

/-- The assignees and the working issues are `none` where the list is absent; the properties are a
map. -/
structure FiltersRequest where
  statuses : List String
  priorities : List String
  assignees : Option (List ActorRef)
  includeNoAssignee : Bool
  creators : List ActorRef
  projectIDs : List String
  includeNoProject : Bool
  labelIDs : List String
  properties : List (String × List String)
  date : Option DateFilterRequest
  workingOnly : Bool
  workingIssueIDs : Option (List String)
  includeSubIssues : Option Bool

structure QuerySpec where
  scope : Scope
  filters : FiltersRequest
  search : String
  sort : SortRequest

def sortedUniqueStrings (values : List String) : List String :=
  (((values.map trimSpace).filter fun value => value ≠ "").dedup).insertionSort (· ≤ ·)

abbrev Clause (Id : Type) : Type := Except Failure (TableIssue Id → Bool)

section Compile

variable {Id : Type} [DecidableEq Id] (library : Library Id)

def unrestricted : Clause Id := .ok fun _ => true

def parseIssueTableUUIDList (values : List String) (field : String) : Except Failure (List Id) :=
  match values.mapM library.parseUUID with
  | none => .error (invalid ("invalid " ++ field))
  | some ids => .ok ids

def parseIssueTableActor (actor : ActorRef) (field : String) : Except Failure (ActorType × Id) :=
  match isIssueActorType actor.type, library.parseUUID actor.id with
  | some type, some id => .ok (type, id)
  | _, _ => .error (invalid ("invalid " ++ field))

def statusClause (filters : FiltersRequest) : Clause Id :=
  if filters.statuses.any fun status => status ∉ validIssueStatuses.map Status.name then
    .error (invalid "invalid filters.statuses")
  else if filters.statuses = [] then unrestricted
  else .ok fun issue => issue.status.name ∈ sortedUniqueStrings filters.statuses

def priorityClause (filters : FiltersRequest) : Clause Id :=
  if filters.priorities.any fun priority => priority ∉ validIssuePriorities.map Priority.name then
    .error (invalid "invalid filters.priorities")
  else if filters.priorities = [] then unrestricted
  else .ok fun issue => issue.priority.name ∈ sortedUniqueStrings filters.priorities

def assignedTo (actor : ActorType × Id) (issue : TableIssue Id) : Bool :=
  issue.assigneeType = some actor.1 && issue.assigneeID = some actor.2

def createdBy (actor : ActorType × Id) (issue : TableIssue Id) : Bool :=
  issue.creatorType = actor.1 && issue.creatorID = actor.2

/-- The agents of the user, and the squads that the user or one of these agents is in or leads. -/
def involved (snapshot : TableSnapshot Id) (userID : Id) (issue : TableIssue Id) : Bool :=
  let owned := snapshot.agents.filter fun agent => snapshot.owner agent = some userID
  (issue.assigneeType = some .agent && owned.any fun agent => issue.assigneeID = some agent) ||
    (issue.assigneeType = some .squad && snapshot.squads.any fun squad =>
      issue.assigneeID = some squad.id &&
        ((.member, userID) ∈ squad.members || squad.leaderID ∈ owned ||
          squad.members.any fun member => member.1 = .agent && member.2 ∈ owned))

def unauthenticated : Failure := ⟨401, "", "user not authenticated"⟩

def relationClause (snapshot : TableSnapshot Id) (userID : Option Id) (relation : String) : Clause Id :=
  match userID with
  | none => .error unauthenticated
  | some user =>
      let assigned := assignedTo (.member, user)
      let created := createdBy (.member, user)
      match if relation = "" then "any" else relation with
      | "assigned" => .ok assigned
      | "created" => .ok created
      | "involved" => .ok (involved snapshot user)
      | "any" => .ok fun issue => assigned issue || created issue || involved snapshot user issue
      | _ => .error (invalid "invalid scope.relation")

def scopedActor (scope : Scope) : Except Failure (ActorType × Id) :=
  match scope.actor with
  | none => .error (invalid "scope.actor is required")
  | some actor => parseIssueTableActor library actor "scope.actor"

def scopeClause (snapshot : TableSnapshot Id) (userID : Option Id) (scope : Scope) : Clause Id :=
  match scope.kind with
  | "workspace" =>
      if scope.assigneeTypes.any fun type => (isIssueActorType type).isNone then
        .error (invalid "invalid scope.assignee_types")
      else if scope.assigneeTypes = [] then unrestricted
      else .ok fun issue => issue.assigneeType.any fun type =>
        type.name ∈ sortedUniqueStrings scope.assigneeTypes
  | "project" =>
      match library.parseUUID scope.projectID with
      | none => .error (invalid "invalid scope.project_id")
      | some projectID => .ok fun issue => issue.projectID = some projectID
  | "assignee" => (scopedActor library scope).map assignedTo
  | "creator" => (scopedActor library scope).map createdBy
  | "my" => relationClause snapshot userID scope.relation
  | _ => .error (invalid "invalid scope.kind")

/-- An absent list is no filter, an empty one matches nothing. -/
def assigneeClause (filters : FiltersRequest) : Clause Id :=
  if filters.assignees.isSome || filters.includeNoAssignee then
    ((filters.assignees.getD []).mapM fun actor =>
      parseIssueTableActor library actor "filters.assignees").map fun actors issue =>
        actors.any (assignedTo · issue) ||
          filters.includeNoAssignee && issue.assigneeType.isNone && issue.assigneeID.isNone
  else unrestricted

def creatorClause (filters : FiltersRequest) : Clause Id :=
  if filters.creators = [] then unrestricted
  else
    (filters.creators.mapM fun actor => parseIssueTableActor library actor "filters.creators").map
      fun actors issue => actors.any (createdBy · issue)

def projectClause (filters : FiltersRequest) : Clause Id :=
  (parseIssueTableUUIDList library filters.projectIDs "filters.project_ids").map fun projectIDs issue =>
    (projectIDs.isEmpty && !filters.includeNoProject) ||
      (issue.projectID.any fun projectID => projectID ∈ projectIDs) ||
      filters.includeNoProject && issue.projectID.isNone

def labelClause (filters : FiltersRequest) : Clause Id :=
  (parseIssueTableUUIDList library filters.labelIDs "filters.label_ids").map fun labelIDs issue =>
    labelIDs.isEmpty || issue.labels.any fun label => label ∈ labelIDs

def maxPropertiesFilterDefinitions : Nat := 20
def maxPropertiesFilterValues : Nat := 50

def bagValue (key : String) (issue : TableIssue Id) : Option Json :=
  (library.uuidParse key).bind fun id =>
    if library.uuidToString id = key then issue.properties id else none

/-- The alternatives of a value: the string, an array with it, and the boolean that it spells. -/
def contains (key value : String) (issue : TableIssue Id) : Bool :=
  match bagValue library key issue with
  | some (.string held) => held = value
  | some (.array items) => items.any fun
    | .string held => held = value
    | _ => false
  | some (.bool held) => value = if held then "true" else "false"
  | _ => false

def alternatives (value : String) : Nat := if value = "true" ∨ value = "false" then 3 else 2

def parsePropertiesEntry (entry : String × List String) : Except Failure Nat :=
  if (library.uuidParse entry.1).isNone then
    .error (invalid ("properties filter key \"" ++ entry.1 ++ "\" is not a definition id"))
  else if maxPropertiesFilterValues < entry.2.length then
    .error (invalid ("properties filter for " ++ entry.1 ++ " cannot list more than " ++
      toString maxPropertiesFilterValues ++ " values"))
  else .ok (entry.2.map alternatives).sum

def entryHolds (entry : String × List String) (issue : TableIssue Id) : Bool :=
  entry.2.isEmpty || entry.2.any fun value => contains library entry.1 value issue

def normalizedProperties (properties : List (String × List String)) : List (String × List String) :=
  properties.map fun entry => (entry.1, sortedUniqueStrings entry.2)

def propertyClause (properties : List (String × List String)) : Clause Id :=
  let entries := normalizedProperties properties
  if maxPropertiesFilterDefinitions < entries.length then
    .error (invalid ("properties filter cannot cover more than " ++
      toString maxPropertiesFilterDefinitions ++ " definitions"))
  else
    match entries.mapM (parsePropertiesEntry library) with
    | .error failure => .error failure
    | .ok totals =>
        if 256 < totals.sum then .error (invalid "properties filter is too large")
        else .ok fun issue => entries.all fun entry => entryHolds library entry issue

def dateClause (filters : FiltersRequest) : Clause Id :=
  match filters.date with
  | none => unrestricted
  | some date =>
      let column : Option (TableIssue Id → Int) :=
        match date.field with
        | "created_at" => some fun issue => issue.createdAt
        | "updated_at" => some fun issue => issue.updatedAt
        | _ => none
      match column, library.parseTime date.start, library.parseTime date.stop with
      | none, _, _ => .error (invalid "invalid filters.date.field")
      | some column, some start, some stop =>
          if start < stop then .ok fun issue => start ≤ column issue && column issue < stop
          else .error (invalid "invalid filters.date range")
      | _, _, _ => .error (invalid "invalid filters.date range")

def workingClause (snapshot : TableSnapshot Id) (filters : FiltersRequest) : Clause Id :=
  (parseIssueTableUUIDList library (filters.workingIssueIDs.getD []) "filters.working_issue_ids").map
    fun workingIssueIDs issue =>
      (!filters.workingOnly || issue.id ∈ snapshot.running) &&
        (filters.workingIssueIDs.isNone || issue.id ∈ workingIssueIDs)

def subIssueClause (filters : FiltersRequest) : Clause Id :=
  if filters.includeSubIssues = some false then .ok fun issue => issue.parentIssueID.isNone
  else unrestricted

def searchClause (raw : String) : Clause Id :=
  let query := trimSpace raw
  let words := splitSearchTerms (library.toLower query)
  let number := parseQueryNumber query
  if query = "" ∨ (words = [] ∧ number = none) then unrestricted
  else .ok fun issue =>
    (words ≠ [] && words.all fun word => GoLib.contains (library.lower issue.title).toList word) ||
      number.any fun number => (issue.number : Int) = number

def clauses (snapshot : TableSnapshot Id) (userID : Option Id) (spec : QuerySpec) : List (Clause Id) :=
  [statusClause spec.filters, priorityClause spec.filters, scopeClause library snapshot userID spec.scope,
    assigneeClause library spec.filters, creatorClause library spec.filters,
    projectClause library spec.filters, labelClause library spec.filters,
    propertyClause library spec.filters.properties, dateClause library spec.filters,
    workingClause library snapshot spec.filters, subIssueClause spec.filters,
    searchClause library spec.search]

def conjunction : List (Clause Id) → Clause Id
  | [] => unrestricted
  | clause :: rest =>
      match clause with
      | .error failure => .error failure
      | .ok holds => (conjunction rest).map fun others issue => holds issue && others issue

def compileIssueTableQuery (snapshot : TableSnapshot Id) (userID : Option Id) (spec : QuerySpec) : Clause Id :=
  conjunction (clauses library snapshot userID spec)

end Compile

end MulticaOS.IssueTable
