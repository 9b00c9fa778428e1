import MulticaOS.IssueLists.Server
import MulticaOS.Lib.Text

/-!
The filters and the sort of the client's issue lists, and the request that `api.listIssues`
sends for them: blank texts and empty lists are left out, an empty `ids` is sent.
-/

namespace MulticaOS.IssueLists

open IssueTable (Status Priority ActorType)

structure MyIssuesFilter where
  assigneeId : Option String
  assigneeIds : Option (List String)
  assigneeTypes : Option (List ActorType)
  creatorId : Option String
  projectId : Option String
  involvesUserId : Option String
  deriving DecidableEq

structure IssueFlatFilter extends MyIssuesFilter where
  q : Option String
  statuses : Option (List Status)
  priorities : Option (List Priority)
  assigneeFilters : Option (List (ActorType × String))
  includeNoAssignee : Bool
  creatorFilters : Option (List (ActorType × String))
  projectIds : Option (List String)
  includeNoProject : Bool
  labelIds : Option (List String)
  topLevelOnly : Bool
  ids : Option (List String)
  deriving DecidableEq

def IssueFlatFilter.empty : IssueFlatFilter where
  assigneeId := none
  assigneeIds := none
  assigneeTypes := none
  creatorId := none
  projectId := none
  involvesUserId := none
  q := none
  statuses := none
  priorities := none
  assigneeFilters := none
  includeNoAssignee := false
  creatorFilters := none
  projectIds := none
  includeNoProject := false
  labelIds := none
  topLevelOnly := false
  ids := none

def noMyIssuesFilter : MyIssuesFilter := IssueFlatFilter.empty.toMyIssuesFilter

structure IssueSortParam where
  sortBy : Option SortColumn
  descending : Bool
  dateFilter : Option IssueDateFilter
  properties : List (String × List String)
  deriving DecidableEq

def IssueSortParam.empty : IssueSortParam where
  sortBy := none
  descending := false
  dateFilter := none
  properties := []

def sent (text : Option String) : Option String := text.filter fun text => text ≠ ""

def sentQuery (q : Option String) : Option String :=
  sent (q.map fun q => String.ofList (TextLib.trim q.toList))

def listIssuesParams (filter : IssueFlatFilter) (sort : IssueSortParam) : ListIssuesParams where
  q := sentQuery filter.q
  statuses := filter.statuses.getD []
  priorities := filter.priorities.getD []
  assigneeId := sent filter.assigneeId
  assigneeIds := filter.assigneeIds.getD []
  assigneeTypes := filter.assigneeTypes.getD []
  creatorId := sent filter.creatorId
  projectId := sent filter.projectId
  assigneeFilters := filter.assigneeFilters.getD []
  includeNoAssignee := filter.includeNoAssignee
  creatorFilters := filter.creatorFilters.getD []
  projectIds := filter.projectIds.getD []
  includeNoProject := filter.includeNoProject
  labelIds := filter.labelIds.getD []
  ids := filter.ids
  topLevelOnly := filter.topLevelOnly
  scheduled := false
  properties := sort.properties
  dateFilter := sort.dateFilter
  involvesUserId := sent filter.involvesUserId
  sort := sort.sortBy.getD .position
  descending := sort.descending

end MulticaOS.IssueLists
