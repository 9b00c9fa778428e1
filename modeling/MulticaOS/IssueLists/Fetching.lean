import MulticaOS.IssueLists.Filters

/-!
The client loops that fetch a whole list page by page: `fetchAllFlatPages`, which advances by what
the server returned, and `fetchProjectGanttIssues`, which advances by the page it asked for.
-/

namespace MulticaOS.IssueLists

def issueFlatPageSize : Nat := 100

def projectGanttPageLimit : Nat := 500

def projectGanttMaxIssues : Nat := 10000

abbrev Request := Nat → Nat → ListIssuesResponse

structure FlatFetch where
  issues : List Issue
  seenIds : List String
  added : Nat

def FlatFetch.push (fetch : FlatFetch) (issue : Issue) : FlatFetch :=
  if issue.id ∈ fetch.seenIds then fetch
  else
    { issues := fetch.issues ++ [issue], seenIds := fetch.seenIds ++ [issue.id],
      added := fetch.added + 1 }

def FlatFetch.pushPage (fetch : FlatFetch) (page : List Issue) : FlatFetch :=
  page.foldl FlatFetch.push { fetch with added := 0 }

/-- The loop from an offset on.  `none` means that it has not ended after `fuel` rounds; an error is
the exception that the code throws. -/
def flatPages (request : Request) : Nat → FlatFetch → Nat → Option (Except String (List Issue))
  | 0, _, _ => none
  | fuel + 1, fetch, offset =>
      let response := request issueFlatPageSize offset
      let fetch := fetch.pushPage response.issues
      if response.total ≤ fetch.issues.length then some (.ok fetch.issues)
      else if response.issues.length = 0 ∨ fetch.added = 0 then
        some (.error "Issue export pagination did not advance")
      else flatPages request fuel fetch (offset + response.issues.length)

def fetchAllFlatPages (request : IssueFlatFilter → IssueSortParam → Request) (filter : IssueFlatFilter)
    (sort : IssueSortParam) (fuel : Nat) : Option (Except String (List Issue)) :=
  flatPages (request filter sort) fuel { issues := [], seenIds := [], added := 0 } 0

def ganttPages (request : Request) (issues : List Issue) (offset : Nat) : List Issue :=
  if offset < projectGanttMaxIssues then
    let response := request projectGanttPageLimit offset
    let issues := issues ++ response.issues
    if response.issues.length < projectGanttPageLimit then issues
    else if response.total ≤ issues.length then issues
    else ganttPages request issues (offset + projectGanttPageLimit)
  else issues
termination_by projectGanttMaxIssues - offset
decreasing_by simp only [projectGanttMaxIssues, projectGanttPageLimit] at *; omega

def ganttParams (projectId : String) : ListIssuesParams :=
  { listIssuesParams { IssueFlatFilter.empty with projectId := some projectId } IssueSortParam.empty with
    scheduled := true }

def fetchProjectGanttIssues (request : Request) : List Issue := ganttPages request [] 0

structure FlatFetch.At (fetch : FlatFetch) (window : List Issue) (offset : Nat) : Prop where
  issues : fetch.issues = window.take offset
  seenIds : fetch.seenIds = (window.take offset).map Issue.id
  inside : offset ≤ window.length

theorem push_fresh {fetch : FlatFetch} {page : List Issue}
    (fresh : (fetch.seenIds ++ page.map Issue.id).Nodup) :
    page.foldl FlatFetch.push fetch =
      { issues := fetch.issues ++ page, seenIds := fetch.seenIds ++ page.map Issue.id,
        added := fetch.added + page.length } := by
  induction page generalizing fetch with
  | nil => simp
  | cons issue page ih =>
      have unseen : issue.id ∉ fetch.seenIds := by
        intro seen
        exact (List.nodup_append.mp fresh).2.2 _ seen _ (by simp) rfl
      have later : ((fetch.push issue).seenIds ++ page.map Issue.id).Nodup := by
        simpa [FlatFetch.push, unseen] using fresh
      rw [List.foldl_cons, ih later]
      simp [FlatFetch.push, unseen]
      omega

theorem pushPage_at {fetch : FlatFetch} {window : List Issue} {offset size : Nat}
    (unique : (window.map Issue.id).Nodup) (held : fetch.At window offset) :
    (fetch.pushPage ((window.drop offset).take size)).At window
        (offset + ((window.drop offset).take size).length) ∧
      (fetch.pushPage ((window.drop offset).take size)).added =
        ((window.drop offset).take size).length := by
  have grown : window.take offset ++ (window.drop offset).take size =
      window.take (offset + ((window.drop offset).take size).length) := by
    rw [List.take_add, List.length_take, List.length_drop]
    congr 1
    rcases Nat.le_total size (window.length - offset) with fits | beyond
    · rw [Nat.min_eq_left fits]
    · rw [Nat.min_eq_right beyond, List.take_of_length_le (by simpa using beyond),
        List.take_of_length_le (by simp)]
  have fresh : (fetch.seenIds ++ ((window.drop offset).take size).map Issue.id).Nodup := by
    rw [held.seenIds, ← List.map_append, grown]
    exact ((List.take_sublist _ window).map Issue.id).nodup unique
  have inside := held.inside
  have pushed := @push_fresh { fetch with added := 0 } _ fresh
  rw [FlatFetch.pushPage, pushed]
  refine ⟨⟨?_, ?_, ?_⟩, by simp⟩
  · rw [← grown]
    exact congrArg (· ++ _) held.issues
  · rw [← grown, List.map_append]
    exact congrArg (· ++ _) held.seenIds
  · rw [List.length_take, List.length_drop]
    omega

/-- A server that answers with a window: at most `size` issues from the offset on, and its length. -/
def serves (request : Request) (window : List Issue) (limit size : Nat) : Prop :=
  ∀ offset, request limit offset = ⟨(window.drop offset).take size, window.length⟩

theorem flatPages_window {request : Request} {window : List Issue} {size : Nat}
    (served : serves request window issueFlatPageSize size) (positive : 0 < size)
    (unique : (window.map Issue.id).Nodup) (fuel : Nat) {fetch : FlatFetch} {offset : Nat}
    (held : fetch.At window offset) (enough : window.length - offset < fuel) :
    flatPages request fuel fetch offset = some (.ok window) := by
  induction fuel generalizing fetch offset with
  | zero => omega
  | succ fuel ih =>
      obtain ⟨next, added⟩ := @pushPage_at _ _ _ size unique held
      have inside := next.inside
      have length : (fetch.pushPage ((window.drop offset).take size)).issues.length =
          offset + ((window.drop offset).take size).length := by
        rw [next.issues, List.length_take]
        omega
      simp only [flatPages, served offset]
      by_cases all : window.length ≤ (fetch.pushPage ((window.drop offset).take size)).issues.length
      · rw [if_pos all, next.issues, List.take_of_length_le (by omega)]
      · have grows : 0 < ((window.drop offset).take size).length := by
          rw [List.length_take, List.length_drop]
          omega
        rw [if_neg all, if_neg (by omega)]
        exact ih next (by omega)

theorem ganttPages_first {request : Request} {window : List Issue} {size : Nat}
    (served : serves request window projectGanttPageLimit size) (short : size < projectGanttPageLimit) :
    fetchProjectGanttIssues request = window.take size := by
  have below : (window.take size).length < projectGanttPageLimit := by
    rw [List.length_take]
    omega
  rw [fetchProjectGanttIssues, ganttPages, if_pos (by decide)]
  simp only [served 0, List.drop_zero, List.nil_append, if_pos below]

section
variable (world : World) (rows : IssueRows)

theorem listIssues_serves (params : ListIssuesParams) (limit : Nat) :
    serves (listIssues world params rows.issues) (params.window world rows.issues) limit
      (serverLimit limit) := by
  intro offset
  rw [listIssues, window_length]

abbrev ProjectId := { text : String // text ≠ "" }

def Issue.isScheduled (issue : Issue) (projectId : ProjectId) : Bool :=
  issue.projectId = some projectId.val && (issue.startDate.isSome || issue.dueDate.isSome)

def scheduled (projectId : ProjectId) : List Issue :=
  rows.issues.filter fun issue => issue.isScheduled projectId

def ganttFetched (projectId : ProjectId) : List Issue :=
  fetchProjectGanttIssues (listIssues world (ganttParams projectId.val) rows.issues)

structure GanttExhaustive (projectId : ProjectId) (fetched : List Issue) : Prop where
  complete : ∀ issue, issue ∈ fetched ↔ issue ∈ scheduled rows projectId
  once : (fetched.map Issue.id).Nodup

structure FlatExhaustive (filter : IssueFlatFilter) (sort : IssueSortParam) (fetched : List Issue) :
    Prop where
  complete : ∀ issue, issue ∈ fetched ↔
    issue ∈ rows.issues ∧ (listIssuesParams filter sort).holds world issue = true
  once : (fetched.map Issue.id).Nodup
  ordered : fetched.Pairwise fun left right =>
    (listIssuesParams filter sort).rank world left < (listIssuesParams filter sort).rank world right

/-- Every exhaustive fetch returns what it should: the Gantt fetch within its cap, the flat fetch
always, without an exception. -/
structure FetchesExhaustive (projectId : ProjectId) : Prop where
  gantt : (scheduled rows projectId).length ≤ projectGanttMaxIssues →
    GanttExhaustive rows projectId (ganttFetched world rows projectId)
  flat : ∀ filter sort, ∃ fuel, ∀ more ≥ fuel, ∃ fetched,
    fetchAllFlatPages (fun filter sort => listIssues world (listIssuesParams filter sort) rows.issues)
      filter sort more = some (.ok fetched) ∧ FlatExhaustive world rows filter sort fetched

theorem fetchAllFlatPages_exhaustive (filter : IssueFlatFilter) (sort : IssueSortParam) :
    ∃ fuel, ∀ more ≥ fuel, ∃ fetched,
      fetchAllFlatPages (fun filter sort => listIssues world (listIssuesParams filter sort) rows.issues)
        filter sort more = some (.ok fetched) ∧ FlatExhaustive world rows filter sort fetched := by
  refine ⟨((listIssuesParams filter sort).window world rows.issues).length + 1, fun more enough => ?_⟩
  refine ⟨(listIssuesParams filter sort).window world rows.issues, ?_, ?_⟩
  · have served := listIssues_serves world rows (listIssuesParams filter sort) issueFlatPageSize
    exact flatPages_window served (by decide) window_ids more ⟨by simp, by simp, by simp⟩ (by omega)
  · exact ⟨fun issue => mem_window, window_ids, window_ascending⟩

theorem ganttParams_holds (projectId : ProjectId) :
    (ganttParams projectId.val).holds world = fun issue => issue.isScheduled projectId := by
  funext issue
  have named := projectId.property
  simp [ganttParams, ListIssuesParams.holds, listIssuesParams, IssueFlatFilter.empty, IssueSortParam.empty,
    oneOf, assigneeHolds, projectHolds, sent, sentQuery, Issue.isScheduled, Option.filter, named]

theorem ganttFetched_first (projectId : ProjectId) :
    ganttFetched world rows projectId =
      ((ganttParams projectId.val).window world rows.issues).take maxLimit :=
  ganttPages_first (listIssues_serves world rows _ projectGanttPageLimit) (by decide)

theorem ganttFetched_exhaustive_iff (projectId : ProjectId) :
    GanttExhaustive rows projectId (ganttFetched world rows projectId) ↔
      (scheduled rows projectId).length ≤ maxLimit := by
  have length : ((ganttParams projectId.val).window world rows.issues).length =
      (scheduled rows projectId).length := by
    rw [window_length, ganttParams_holds, scheduled]
  have member : ∀ issue, issue ∈ (ganttParams projectId.val).window world rows.issues ↔
      issue ∈ scheduled rows projectId := by
    intro issue
    rw [mem_window, ganttParams_holds, scheduled, List.mem_filter]
  rw [ganttFetched_first]
  constructor
  · intro exhaustive
    -- all the scheduled issues are among the ones fetched, and they have different ids
    have distinct : (scheduled rows projectId).Nodup :=
      (List.filter_sublist.nodup (List.Nodup.of_map _ rows.ids))
    have within := List.subperm_of_subset distinct fun issue listed => (exhaustive.complete issue).mpr listed
    have bound := within.length_le
    rw [List.length_take] at bound
    omega
  · intro few
    rw [List.take_of_length_le (by omega)]
    exact ⟨member, window_ids⟩

theorem fetches_exhaustive_iff (projectId : ProjectId) :
    FetchesExhaustive world rows projectId ↔
      (scheduled rows projectId).length ≤ maxLimit ∨
        projectGanttMaxIssues < (scheduled rows projectId).length := by
  constructor
  · intro exhaustive
    by_cases within : (scheduled rows projectId).length ≤ projectGanttMaxIssues
    · left
      exact (ganttFetched_exhaustive_iff world rows projectId).mp (exhaustive.gantt within)
    · right
      omega
  · intro bounded
    refine ⟨fun within => ?_, fetchAllFlatPages_exhaustive world rows⟩
    apply (ganttFetched_exhaustive_iff world rows projectId).mpr
    omega

end

def plannedIssue (number : Nat) : Issue :=
  { survey with id := toString number, number := number, position := number, dueDate := some 20000 }

def plannedRows : IssueRows where
  issues := (List.range 101).map plannedIssue
  ids := by decide +kernel

theorem gantt_fetch_truncated : ¬ FetchesExhaustive plainWorld plannedRows ⟨"bridge", by decide⟩ := by
  intro exhaustive
  have count : (scheduled plannedRows ⟨"bridge", by decide⟩).length = 101 := by decide +kernel
  have fetched := exhaustive.gantt (by rw [count]; decide)
  have few := (ganttFetched_exhaustive_iff plainWorld plannedRows ⟨"bridge", by decide⟩).mp fetched
  rw [count] at few
  exact absurd few (by decide)

end MulticaOS.IssueLists
