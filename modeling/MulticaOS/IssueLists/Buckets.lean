import MulticaOS.IssueLists.Patches

/-!
The cache of an issue list in buckets, one for each status, and the operations on it
(`cache-helpers.ts`).
-/

namespace MulticaOS.IssueLists

open IssueTable (Status validIssueStatuses)

structure IssueStatusBucket where
  issues : List Issue
  total : Nat
  deriving DecidableEq

def emptyBucket : IssueStatusBucket where
  issues := []
  total := 0

structure ListIssuesCache where
  byStatus : Status → Option IssueStatusBucket

def paginatedStatuses : List Status := validIssueStatuses

theorem mem_paginatedStatuses (status : Status) : status ∈ paginatedStatuses := by
  cases status <;> decide

def getBucket (cache : ListIssuesCache) (status : Status) : IssueStatusBucket :=
  (cache.byStatus status).getD emptyBucket

def setBucket (cache : ListIssuesCache) (status : Status) (bucket : IssueStatusBucket) :
    ListIssuesCache where
  byStatus other := if other = status then some bucket else cache.byStatus other

def findIssueLocation (cache : ListIssuesCache) (id : String) : Option (Status × Issue) :=
  paginatedStatuses.findSome? fun status =>
    ((getBucket cache status).issues.find? fun issue => issue.id = id).map fun issue => (status, issue)

def addIssueToBuckets (cache : ListIssuesCache) (issue : Issue) : ListIssuesCache :=
  let bucket := getBucket cache issue.status
  if bucket.issues.any fun other => other.id = issue.id then cache
  else setBucket cache issue.status { issues := bucket.issues ++ [issue], total := bucket.total + 1 }

def removeIssueFromBuckets (cache : ListIssuesCache) (id : String) : ListIssuesCache :=
  match findIssueLocation cache id with
  | none => cache
  | some (status, _) =>
      let bucket := getBucket cache status
      setBucket cache status
        { issues := bucket.issues.filter fun issue => issue.id ≠ id, total := bucket.total - 1 }

/-- The status of an issue beyond the loaded window has changed: one unit of the totals moves. -/
def moveBucketTotal (cache : ListIssuesCache) (source target : Status) : ListIssuesCache :=
  if source = target then cache
  else
    let sourceBucket := getBucket cache source
    let targetBucket := getBucket cache target
    setBucket (setBucket cache source { sourceBucket with total := sourceBucket.total - 1 }) target
      { targetBucket with total := targetBucket.total + 1 }

def decrementBucketTotal (cache : ListIssuesCache) (status : Status) : ListIssuesCache :=
  let bucket := getBucket cache status
  setBucket cache status { bucket with total := bucket.total - 1 }

def insertByPosition (issues : List Issue) (issue : Issue) : List Issue :=
  match issues.findIdx? fun other => issue.position < other.position with
  | none => issues ++ [issue]
  | some index => issues.take index ++ issue :: issues.drop index

def patchIssueInBuckets (cache : ListIssuesCache) (id : String) (patch : IssuePatch) : ListIssuesCache :=
  match findIssueLocation cache id with
  | none => cache
  | some (status, issue) =>
      let merged := patch.apply issue
      let nextStatus := patch.status.getD status
      if nextStatus = status then
        let bucket := getBucket cache status
        if patch.position.any fun position => position ≠ issue.position then
          setBucket cache status
            { bucket with
              issues := insertByPosition (bucket.issues.filter fun other => other.id ≠ id) merged }
        else
          setBucket cache status
            { bucket with issues := bucket.issues.map fun other => if other.id = id then merged else other }
      else
        let source := getBucket cache status
        let target := getBucket cache nextStatus
        setBucket
          (setBucket cache status
            { issues := source.issues.filter fun other => other.id ≠ id, total := source.total - 1 })
          nextStatus { issues := insertByPosition target.issues merged, total := target.total + 1 }

structure StatusPage (status : Status) where
  issues : List Issue
  total : Nat
  ofStatus : ∀ issue ∈ issues, issue.status = status
  distinct : (issues.map Issue.id).Nodup

def appendPage (cache : ListIssuesCache) {status : Status} (page : StatusPage status) : ListIssuesCache :=
  let bucket := getBucket cache status
  let appended := page.issues.filter fun issue => !(bucket.issues.map Issue.id).contains issue.id
  setBucket cache status { issues := bucket.issues ++ appended, total := page.total }

@[simp] theorem getBucket_setBucket (cache : ListIssuesCache) (status other : Status)
    (bucket : IssueStatusBucket) :
    getBucket (setBucket cache status bucket) other =
      if other = status then bucket else getBucket cache other := by
  by_cases same : other = status
  · simp [getBucket, setBucket, same]
  · simp [getBucket, setBucket, same]

theorem location_none {cache : ListIssuesCache} {id : String} :
    findIssueLocation cache id = none ↔
      ∀ status, ∀ issue ∈ (getBucket cache status).issues, issue.id ≠ id := by
  simp only [findIssueLocation, List.findSome?_eq_none_iff, Option.map_eq_none_iff, List.find?_eq_none,
    decide_eq_true_eq]
  exact ⟨fun nowhere status => nowhere status (mem_paginatedStatuses status),
    fun nowhere status _ => nowhere status⟩

theorem location_some {cache : ListIssuesCache} {id : String} {status : Status} {issue : Issue}
    (found : findIssueLocation cache id = some (status, issue)) :
    issue ∈ (getBucket cache status).issues ∧ issue.id = id := by
  obtain ⟨other, _, held⟩ := List.exists_of_findSome?_eq_some found
  obtain ⟨found', search, same⟩ := Option.map_eq_some_iff.mp held
  cases same
  exact ⟨List.mem_of_find?_eq_some search, by simpa using List.find?_some search⟩

theorem insertByPosition_perm (issues : List Issue) (issue : Issue) :
    (insertByPosition issues issue).Perm (issue :: issues) := by
  rw [insertByPosition]
  split
  · exact List.perm_append_singleton issue issues
  · next index _ =>
      calc (issues.take index ++ issue :: issues.drop index).Perm
            (issue :: (issues.take index ++ issues.drop index)) := List.perm_middle
        _ = issue :: issues := by rw [List.take_append_drop]

end MulticaOS.IssueLists
