import MulticaOS.IssueLists.Coordinator

/-!
The optimistic mutations of issues: what `onMutate` writes and remembers, and what `onError`
restores (`mutations.ts`).
-/

namespace MulticaOS.IssueLists

open CacheLib (Cache get set update rewrite rewritten restore firstWins remove)

structure UpdateContext where
  change : IssueCacheChangeResult
  prevChildren : Option (List Issue)
  parentId : Option ParentId
  id : String

def resolveParentId (cache : QueryCache) (id : String) (prevDetail prevIssue : Option Issue) :
    Option ParentId :=
  let named := (prevDetail.bind Issue.parentIssueId).or (prevIssue.bind Issue.parentIssueId)
  (parentIdOf named).or
    ((cache.children.rows.find? fun entry => entry.2.any fun child => child.id = id).map Prod.fst)

def patchChildren (ids : List String) (patch : IssuePatch) (children : List Issue) : List Issue :=
  children.map fun child => if child.id ∈ ids then patch.apply child else child

def updateOnMutate (cache : QueryCache) (id : String) (patch : IssuePatch) : QueryCache × UpdateContext :=
  let prevDetail := get cache.details id
  let (changed, change) := applyIssueChange id patch (issueChangedDims patch prevDetail) prevDetail cache
  let parentId := resolveParentId changed id prevDetail change.prevIssue
  let detached := fun parentId : ParentId => patch.parentIssueId.any fun next => next ≠ some parentId.val
  let next := match parentId with
    | none => changed
    | some parentId =>
        { changed with
          children := update changed.children parentId fun children =>
            if detached parentId then children.filter fun child => child.id ≠ id
            else patchChildren [id] patch children }
  (next,
    { change := change
      prevChildren := parentId.bind (get changed.children)
      parentId := parentId
      id := id })

def updateOnError (cache : QueryCache) (context : UpdateContext) : QueryCache :=
  let restored := rollbackIssueChange cache context.id context.change
  match context.parentId, context.prevChildren with
  | some parentId, some children => { restored with children := set restored.children parentId children }
  | _, _ => restored

/-- `Map.set`: a key that is there keeps its place. -/
def mapSet {Key Data : Type} [DecidableEq Key] (entries : List (Key × Data)) (key : Key) (data : Data) :
    List (Key × Data) :=
  if key ∈ entries.map Prod.fst then
    entries.map fun entry => if entry.1 = key then (key, data) else entry
  else entries ++ [(key, data)]

structure BatchSnapshots where
  prevLists : List (IssueSortParam × ListIssuesCache)
  prevMyLists : List (MyListKey × ListIssuesCache)
  prevFlatLists : List (FlatKey × List ListIssuesResponse)
  prevTableRows : List (KeyHash × IssueTableRowCache)
  prevDetailById : List (String × Issue)
  prevInboxList : Option (List InboxItem)

def BatchSnapshots.empty : BatchSnapshots where
  prevLists := []
  prevMyLists := []
  prevFlatLists := []
  prevTableRows := []
  prevDetailById := []
  prevInboxList := none

def BatchSnapshots.add (snapshots : BatchSnapshots) (id : String) (change : IssueCacheChangeResult) :
    BatchSnapshots where
  prevLists := firstWins snapshots.prevLists change.prevLists
  prevMyLists := firstWins snapshots.prevMyLists change.prevMyLists
  prevFlatLists := firstWins snapshots.prevFlatLists change.prevFlatLists
  prevTableRows := firstWins snapshots.prevTableRows change.prevTableRows
  prevDetailById := match change.prevDetail with
    | none => snapshots.prevDetailById
    | some issue => mapSet snapshots.prevDetailById id issue
  prevInboxList := snapshots.prevInboxList.or change.prevInboxList

def changeEach (patch : IssuePatch) : List String → QueryCache × BatchSnapshots → QueryCache × BatchSnapshots
  | [], state => state
  | id :: rest, (cache, snapshots) =>
      let base := get cache.details id
      let (next, change) := applyIssueChange id patch (issueChangedDims patch base) base cache
      changeEach patch rest (next, snapshots.add id change)

structure BatchContext where
  snapshots : BatchSnapshots
  prevChildren : List (ParentId × List Issue)

def batchUpdateOnMutate (cache : QueryCache) (ids : List String) (patch : IssuePatch) :
    QueryCache × BatchContext :=
  let (changed, snapshots) := changeEach patch ids (cache, .empty)
  let mirrored := fun (_ : ParentId) (children : List Issue) =>
    if children.any fun child => child.id ∈ ids then some (patchChildren ids patch children) else none
  ({ changed with children := rewrite changed.children mirrored },
    { snapshots := snapshots
      prevChildren := rewritten changed.children mirrored })

def batchUpdateOnError (cache : QueryCache) (context : BatchContext) : QueryCache :=
  { cache with
    lists := restore cache.lists context.snapshots.prevLists
    my := restore cache.my context.snapshots.prevMyLists
    flat := restore cache.flat context.snapshots.prevFlatLists
    tableRows := restore cache.tableRows context.snapshots.prevTableRows
    details := restore cache.details context.snapshots.prevDetailById
    inbox := context.snapshots.prevInboxList.or cache.inbox
    children := restore cache.children context.prevChildren }

structure DeleteContext where
  metadata : List ParentId
  prevLists : List (IssueSortParam × ListIssuesCache)
  prevMyLists : List (MyListKey × ListIssuesCache)
  prevAssigneeGroups : List (KeyHash × List IssueAssigneeGroup)
  prevFlatLists : List (FlatKey × List ListIssuesResponse)
  prevFlatExports : List (FlatKey × List Issue)
  prevDetail : Option Issue
  prevChildren : List (ParentId × List Issue)

def loadedChildren (cache : QueryCache) (parents : List ParentId) : List (ParentId × List Issue) :=
  parents.filterMap fun parentId => (get cache.children parentId).map fun children => (parentId, children)

def snapshotLists (cache : QueryCache) (metadata : List ParentId) (prevDetail : Option Issue) : DeleteContext where
  metadata := metadata
  prevLists := cache.lists.rows
  prevMyLists := cache.my.rows
  prevAssigneeGroups := cache.myAssigneeGroups.rows
  prevFlatLists := cache.flat.rows
  prevFlatExports := cache.flatExports.rows
  prevDetail := prevDetail
  prevChildren := loadedChildren cache metadata

def deleteOnMutate (cache : QueryCache) (id : String) : Except String (QueryCache × DeleteContext) := do
  let metadata ← collectDeletedIssueCacheMetadata cache id
  let pruned ← pruneDeletedIssueFromListCaches cache id
  let pruned := pruneDeletedIssueFromParentChildrenCaches pruned id metadata
  return ({ pruned with details := remove pruned.details id },
    snapshotLists cache metadata (get cache.details id))

def pruneEach : List (String × List ParentId) → QueryCache → Except String QueryCache
  | [], cache => .ok cache
  | (id, metadata) :: rest, cache => do
      let pruned ← pruneDeletedIssueFromListCaches cache id
      pruneEach rest (pruneDeletedIssueFromParentChildrenCaches pruned id metadata)

def batchDeleteOnMutate (cache : QueryCache) (ids : List String) :
    Except String (QueryCache × DeleteContext) := do
  let metadataById ← ids.mapM fun id => do
    let metadata ← collectDeletedIssueCacheMetadata cache id
    return (id, metadata)
  let parents := (metadataById.flatMap Prod.snd).eraseDups
  let pruned ← pruneEach metadataById cache
  return (pruned, snapshotLists cache parents none)

def deleteOnError (cache : QueryCache) (id : String) (context : DeleteContext) : QueryCache :=
  { cache with
    lists := restore cache.lists context.prevLists
    my := restore cache.my context.prevMyLists
    myAssigneeGroups := restore cache.myAssigneeGroups context.prevAssigneeGroups
    flat := restore cache.flat context.prevFlatLists
    flatExports := restore cache.flatExports context.prevFlatExports
    details := restoreDetail cache.details id context.prevDetail
    children := restore cache.children context.prevChildren }

end MulticaOS.IssueLists
