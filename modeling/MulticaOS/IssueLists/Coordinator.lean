import MulticaOS.IssueLists.QueryCache

/-!
How one change of an issue goes through the query cache, and how it is taken back
(`cache-coordinator.ts`).
-/

namespace MulticaOS.IssueLists

open IssueTable (Status ActorType)
open CacheLib (Cache get set update rewrite rewritten restore)

inductive IssueMembership where
  | yes
  | no
  | unknown
  deriving DecidableEq

def Issue.whole (issue : Issue) : IssuePatch where
  id := issue.id
  number := issue.number
  title := issue.title
  description := issue.description
  status := issue.status
  priority := issue.priority
  assigneeType := issue.assigneeType
  assigneeId := issue.assigneeId
  creatorType := issue.creatorType
  creatorId := issue.creatorId
  parentIssueId := issue.parentIssueId
  projectId := issue.projectId
  position := issue.position
  startDate := issue.startDate
  dueDate := issue.dueDate
  stage := issue.stage
  metadata := issue.metadata
  createdAt := issue.createdAt
  updatedAt := issue.updatedAt

def IssuePatch.over (patch : IssuePatch) : Option Issue → IssuePatch
  | none => patch
  | some base => (patch.apply base).whole

def fieldMembership {Wanted Value : Type} (wanted : Option Wanted) (value : Option Value)
    (fits : Wanted → Value → Bool) : IssueMembership :=
  match wanted, value with
  | none, _ => .yes
  | some _, none => .unknown
  | some wanted, some value => if fits wanted value then .yes else .no

def issueMatchesListFilter (issue : IssuePatch) (scope : Option String) (filter : MyIssuesFilter) :
    IssueMembership :=
  if scope = some "all" then .unknown
  else
    let fields := [
      fieldMembership filter.assigneeId issue.assigneeId fun wanted value => value = some wanted,
      fieldMembership filter.assigneeIds issue.assigneeId fun wanted value => value.any wanted.contains,
      fieldMembership filter.assigneeTypes issue.assigneeType fun wanted value => value.any wanted.contains,
      fieldMembership filter.creatorId issue.creatorId fun wanted value => value = wanted,
      fieldMembership filter.projectId issue.projectId fun wanted value => value = some wanted,
      if filter.involvesUserId.isSome then .unknown else .yes]
    if .no ∈ fields then .no else if .unknown ∈ fields then .unknown else .yes

/-! One entry of the cache: what is written to it, and whether its key is stale. -/

section
variable (id : String) (patch : IssuePatch) (changed : IssueChangedDims) (base : Option Issue)

def changeBucketed (scope : Option String) (filter : MyIssuesFilter) (sort : IssueSortParam)
    (data : ListIssuesCache) : Option ListIssuesCache × Bool :=
  let location := findIssueLocation data id
  let filterTouched := listFilterDependsOn scope filter changed
  let drifted := decide (sort.sortBy = some .updatedAt) &&
    patchChangesAnyIssueField patch ((location.map Prod.snd).or base)
  match location with
  | some (_, issue) =>
      if filterTouched then
        match issueMatchesListFilter (patch.over (some issue)) scope filter with
        | .no => (some (removeIssueFromBuckets data id), drifted)
        | .yes => (some (patchIssueInBuckets data id patch), drifted)
        | .unknown => (some (patchIssueInBuckets data id patch), true)
      else (some (patchIssueInBuckets data id patch), drifted)
  | none =>
      if !filterTouched && !changed.status then (none, drifted)
      else
        let wasMember : IssueMembership := match base with
          | none => .unknown
          | some base => issueMatchesListFilter base.whole scope filter
        let isMember : IssueMembership := issueMatchesListFilter (patch.over base) scope filter
        match wasMember, isMember, base, patch.status with
        | .no, .no, _, _ => (none, drifted)
        | .yes, .yes, some base, some status =>
            if changed.status && decide (base.status ≠ status) then
              (some (moveBucketTotal data base.status status), true)
            else (none, drifted)
        | .yes, .yes, some _, none => (none, drifted)
        | .yes, .no, some base, _ => (some (decrementBucketTotal data base.status), drifted)
        | _, _, _, _ => (none, true)

def findOnPages (pages : List ListIssuesResponse) : Option Issue :=
  ((pages.flatMap ListIssuesResponse.issues).filter fun issue => issue.id = id).getLast?

def changeFlat (key : FlatKey) (pages : List ListIssuesResponse) : Option (List ListIssuesResponse) × Bool :=
  let found := findOnPages id pages
  let patched := pages.map fun page =>
    { page with issues := page.issues.map fun issue => if issue.id = id then patch.apply issue else issue }
  (found.map fun _ => patched, flatWindowNeedsReconcile key patch (found.or base) changed)

def findInRows (data : IssueTableRowCache) : Option Issue :=
  ((data.rows.map IssueTableRow.issue).filter fun issue => issue.id = id).getLast?

def changeTable (data : IssueTableRowCache) : Option IssueTableRowCache :=
  (findInRows id data).map fun _ =>
    { data with
      rows := data.rows.map fun row =>
        if row.issue.id = id then { row with issue := patch.apply row.issue } else row }

end

def patchInboxItems (id : String) (status : Status) (items : List InboxItem) : List InboxItem :=
  items.map fun item => if item.issueId = some id then { item with issueStatus := some status } else item

def patchInboxIssueStatus (cache : QueryCache) (id : String) (status : Status) : QueryCache :=
  { cache with
    inbox := cache.inbox.map (patchInboxItems id status)
    archivedInbox := cache.archivedInbox.map (patchInboxItems id status) }

structure IssueCacheChangeResult where
  prevLists : List (IssueSortParam × ListIssuesCache)
  prevMyLists : List (MyListKey × ListIssuesCache)
  prevFlatLists : List (FlatKey × List ListIssuesResponse)
  prevTableRows : List (KeyHash × IssueTableRowCache)
  prevDetail : Option Issue
  prevInboxList : Option (List InboxItem)
  staleLists : List IssueSortParam
  staleMyLists : List MyListKey
  staleFlatLists : List FlatKey
  prevIssue : Option Issue

section
variable (id : String) (patch : IssuePatch) (changed : IssueChangedDims) (base : Option Issue)

def changeList (sort : IssueSortParam) (data : ListIssuesCache) : Option ListIssuesCache × Bool :=
  changeBucketed id patch changed base none noMyIssuesFilter sort data

def changeMyList (key : MyListKey) (data : ListIssuesCache) : Option ListIssuesCache × Bool :=
  changeBucketed id patch changed base (some key.scope) key.filter key.sort data

def firstCopy (cache : QueryCache) : Option Issue :=
  let bucketed := (cache.lists.rows.map Prod.snd ++ cache.my.rows.map Prod.snd).findSome? fun data =>
    (findIssueLocation data id).map Prod.snd
  let flat := cache.flat.rows.findSome? fun entry => findOnPages id entry.2
  let table := cache.tableRows.rows.findSome? fun entry => findInRows id entry.2
  bucketed.or (flat.or (table.or (get cache.details id)))

def applyIssueChange (cache : QueryCache) : QueryCache × IssueCacheChangeResult :=
  let list := fun key data => (changeList id patch changed base key data).1
  let myList := fun key data => (changeMyList id patch changed base key data).1
  let flat := fun key data => (changeFlat id patch changed base key data).1
  let table := fun _ data => changeTable id patch data
  let patched := { cache with
    lists := rewrite cache.lists list
    my := rewrite cache.my myList
    flat := rewrite cache.flat flat
    tableRows := rewrite cache.tableRows table
    details := update cache.details id patch.apply }
  let prevInboxList := patch.status.bind fun _ => cache.inbox
  let next := match patch.status, prevInboxList with
    | some status, some _ => patchInboxIssueStatus patched id status
    | _, _ => patched
  (next,
    { prevLists := rewritten cache.lists list
      prevMyLists := rewritten cache.my myList
      prevFlatLists := rewritten cache.flat flat
      prevTableRows := rewritten cache.tableRows table
      prevDetail := get cache.details id
      prevInboxList := prevInboxList
      staleLists := (cache.lists.rows.filter fun entry =>
        (changeList id patch changed base entry.1 entry.2).2).map Prod.fst
      staleMyLists := (cache.my.rows.filter fun entry =>
        (changeMyList id patch changed base entry.1 entry.2).2).map Prod.fst
      staleFlatLists := (cache.flat.rows.filter fun entry =>
        (changeFlat id patch changed base entry.1 entry.2).2).map Prod.fst
      prevIssue := base.or (firstCopy id cache) })

end

def restoreDetail (details : Cache String Issue) (id : String) : Option Issue → Cache String Issue
  | none => details
  | some issue => set details id issue

def rollbackIssueChange (cache : QueryCache) (id : String) (result : IssueCacheChangeResult) : QueryCache :=
  { cache with
    lists := restore cache.lists result.prevLists
    my := restore cache.my result.prevMyLists
    flat := restore cache.flat result.prevFlatLists
    tableRows := restore cache.tableRows result.prevTableRows
    details := restoreDetail cache.details id result.prevDetail
    inbox := result.prevInboxList.or cache.inbox }

end MulticaOS.IssueLists
