import MulticaOS.IssueLists.Buckets
import MulticaOS.IssueLists.Reconcile
import MulticaOS.Lib.Caches

/-!
The query cache of a workspace, one family of entries for each kind of query in `queries.ts`, and
what the deletion of an issue does to it (`delete-cache.ts`).
-/

namespace MulticaOS.IssueLists

open IssueTable (Status ActorType)
open CacheLib (Cache get set update walk rewrite remove)

abbrev KeyHash := String

abbrev ParentId := { text : String // text ≠ "" }

def parentIdOf (text : Option String) : Option ParentId :=
  text.bind fun text => if named : text = "" then none else some ⟨text, named⟩

structure MyListKey where
  scope : String
  filter : MyIssuesFilter
  sort : IssueSortParam
  deriving DecidableEq

structure IssueAssigneeGroup where
  id : String
  assigneeType : Option ActorType
  assigneeId : Option String
  issues : List Issue
  total : Nat

structure IssueTableRow where
  issue : Issue
  directChildCount : Nat

structure IssueTableRowCache where
  total : Nat
  rows : List IssueTableRow

structure InboxItem where
  id : String
  issueId : Option String
  issueStatus : Option Status
  title : String
  read : Bool
  archived : Bool
  deriving DecidableEq

/-- The loaded queries.  The boards of `myAssigneeGroups` lie under the prefix of the lists of `my`,
and the exports under the prefix of the flat windows. -/
structure QueryCache where
  lists : Cache IssueSortParam ListIssuesCache
  my : Cache MyListKey ListIssuesCache
  myAssigneeGroups : Cache KeyHash (List IssueAssigneeGroup)
  flat : Cache FlatKey (List ListIssuesResponse)
  flatExports : Cache FlatKey (List Issue)
  tableRows : Cache KeyHash IssueTableRowCache
  children : Cache ParentId (List Issue)
  details : Cache String Issue
  inbox : Option (List InboxItem)
  archivedInbox : Option (List InboxItem)

inductive MyEntry where
  | list (data : ListIssuesCache)
  | board (groups : List IssueAssigneeGroup)

def QueryCache.underMy (cache : QueryCache) : List MyEntry :=
  cache.my.rows.map (fun entry => .list entry.2) ++
    cache.myAssigneeGroups.rows.map fun entry => .board entry.2

/-- `findIssueLocation` on any of them: a board has no `byStatus`, and reading a status of it is a
type error. -/
def MyEntry.findLocation (id : String) : MyEntry → Except String (Option (Status × Issue))
  | .list data => .ok (findIssueLocation data id)
  | .board _ => .error "Cannot read properties of undefined (reading 'backlog')"

def locatedParent (location : Option (Status × Issue)) : Option String :=
  location.bind fun place => place.2.parentIssueId

def issueParent (issues : List Issue) (id : String) : Option String :=
  (issues.find? fun issue => issue.id = id).bind Issue.parentIssueId

def collectDeletedIssueCacheMetadata (cache : QueryCache) (id : String) : Except String (List ParentId) := do
  let detail := (get cache.details id).bind Issue.parentIssueId
  let lists := cache.lists.rows.map fun entry => locatedParent (findIssueLocation entry.2 id)
  let flat := cache.flat.rows.flatMap fun entry => entry.2.map fun page => issueParent page.issues id
  let mine ← cache.underMy.mapM (MyEntry.findLocation id)
  let children := cache.children.rows.filter fun entry => entry.2.any fun issue => issue.id = id
  let named := [detail] ++ lists ++ flat ++ mine.map locatedParent ++
    children.map fun entry => issueParent entry.2 id
  return (named.filterMap parentIdOf ++ children.map Prod.fst).eraseDups

def removeFromPages (id : String) (pages : List ListIssuesResponse) : Option (List ListIssuesResponse) :=
  if pages.any fun page => page.issues.any fun issue => issue.id = id then
    some (pages.map fun page =>
      { issues := page.issues.filter fun issue => issue.id ≠ id, total := page.total - 1 })
  else none

def pruneDeletedIssueFromListCaches (cache : QueryCache) (id : String) : Except String QueryCache := do
  let _ ← cache.underMy.mapM (MyEntry.findLocation id)
  return { cache with
    lists := walk cache.lists fun _ data => removeIssueFromBuckets data id
    my := walk cache.my fun _ data => removeIssueFromBuckets data id
    flat := rewrite cache.flat fun _ pages => removeFromPages id pages }

def pruneDeletedIssueFromParentChildrenCaches (cache : QueryCache) (id : String)
    (metadata : List ParentId) : QueryCache :=
  { cache with
    children := metadata.foldl
      (fun children parentId => update children parentId fun issues => issues.filter fun issue => issue.id ≠ id)
      cache.children }

/-- What the mutation's success handler and the websocket event do; the event collects its own
metadata. -/
def cleanupDeletedIssueCaches (cache : QueryCache) (id : String) (metadata : List ParentId) :
    Except String QueryCache := do
  let pruned ← pruneDeletedIssueFromListCaches cache id
  let pruned := pruneDeletedIssueFromParentChildrenCaches pruned id metadata
  return { pruned with
    details := remove pruned.details id
    children := match parentIdOf (some id) with
      | none => pruned.children
      | some own => remove pruned.children own }

end MulticaOS.IssueLists
