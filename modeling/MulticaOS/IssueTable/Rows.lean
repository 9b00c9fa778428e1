import MulticaOS.IssueTable.Groups
import MulticaOS.Lib.Keyset

/-!
`ListIssueTableRows`: one page of the rows of a branch, and the walk of a client that
follows `next_cursor` while issues come, go and change between its requests.
-/

namespace MulticaOS.IssueTable

open GoLib KeysetLib

variable {Id : Type}

structure RowResponse (Id : Type) where
  issue : Issue Id
  directChildCount : Nat

structure RowsResponse (Id : Type) where
  queryFingerprint : String
  groupKey : Option String
  parentID : Option String
  total : Nat
  rows : List (RowResponse Id)
  branchTotal : Nat
  nextCursor : Option Cursor

def issueTableDefaultPageSize : Int := 50
def issueTableMaxPageSize : Int := 100

def pageLimit (limit : Int) : Except Failure Nat :=
  let limit := if limit = 0 then issueTableDefaultPageSize else limit
  if limit < 1 ∨ issueTableMaxPageSize < limit then
    .error (invalid s!"page.limit must be between 1 and {issueTableMaxPageSize}")
  else .ok limit.toNat

def normalizeIssueTablePage (page : PageRequest) : Except Failure (Nat × Option Cursor) :=
  match pageLimit page.limit with
  | .error failure => .error failure
  | .ok limit =>
      match page.cursor with
      | .absent => .ok (limit, none)
      | .undecodable => .error invalidCursor
      | .cursor cursor => if cursor.version ≠ 1 then .error invalidCursor else .ok (limit, some cursor)

def normalizeIssueTableGroupKey (group : GroupSpec) (groupKey : Option String) :
    Except Failure (Option String) :=
  let given := (groupKey.map trimSpace).getD ""
  if group.kind = "none" then
    if given ≠ "" then .error (invalid "group_key must be empty when group.kind=none") else .ok none
  else if given = "" then .error (invalid "group_key is required")
  else .ok (some given)

def issueTableCursorMatches (cursor : Option Cursor) (fingerprint : String)
    (groupKey parentID : Option String) : Except Failure Unit :=
  match cursor with
  | none => .ok ()
  | some cursor =>
      if cursor.queryFingerprint ≠ fingerprint ∨ cursor.groupKey ≠ groupKey ∨ cursor.parentID ≠ parentID then
        .error ⟨409, "cursor_query_mismatch", "cursor does not belong to this table query"⟩
      else .ok ()

def branchMatches (cursor : Option Cursor) (identity : String) : Except Failure Unit :=
  match cursor with
  | none => .ok ()
  | some cursor =>
      if cursor.branchIdentity ≠ identity then
        .error ⟨409, "cursor_query_mismatch", "cursor does not belong to this table branch"⟩
      else .ok ()

inductive Place (Id : Type) where
  | flat
  | root
  | below (parent : Id)

structure Branch (Id : Type) where
  group : ResolvedGroup Id
  inGroup : Issue Id → Bool
  sort : ResolvedSort Id
  place : Place Id

section Requests

variable [LinearOrder Id] (library : Library Id)

def compileBranch (definitions : List (Property Id)) (spec : GroupSpec) (sortRequest : SortRequest)
    (hierarchy : Bool) (parentID groupKey : Option String) : Except Failure (Branch Id) :=
  match resolveIssueTableGroup library definitions spec true with
  | .error failure => .error failure
  | .ok group =>
      match issueTableOrderBy library definitions sortRequest with
      | .error failure => .error failure
      | .ok sort =>
          match group.predicate library (groupKey.getD "") with
          | .error failure => .error failure
          | .ok inGroup =>
              if hierarchy then
                match parentID with
                | none => .ok ⟨group, inGroup, sort, .root⟩
                | some parentID =>
                    match library.parseUUID parentID with
                    | none => .error (invalid "invalid parent_id")
                    | some parent => .ok ⟨group, inGroup, sort, .below parent⟩
              else .ok ⟨group, inGroup, sort, .flat⟩

def Branch.membership (branch : Branch Id) (snapshot : Snapshot Id) : List (Issue Id) :=
  snapshot.issues.filter fun issue => snapshot.holds issue && branch.inGroup issue

/-- The CTE `promoted_parents`: parents of the matching issues that have a visible status. -/
def promotedParents (snapshot : Snapshot Id) (visible : List String) : List Id :=
  (snapshot.issues.filter fun child => snapshot.holds child && child.status.name ∈ visible).filterMap
    Issue.parentIssueID

def isPromoted (snapshot : Snapshot Id) (group : ResolvedGroup Id) (issue : Issue Id) : Bool :=
  match group with
  | .compound .parent visible true =>
      issue.parentIssueID.isNone && decide (issue.id ∈ promotedParents snapshot visible)
  | _ => false

def Branch.rows (branch : Branch Id) (snapshot : Snapshot Id) : List (Issue Id) :=
  match branch.place with
  | .flat =>
      (branch.membership snapshot).filter fun issue => !isPromoted snapshot branch.group issue
  | .root =>
      (branch.membership snapshot).filter fun issue =>
        match issue.parentIssueID with
        | none => true
        | some parent => (branch.membership snapshot).all fun other => other.id ≠ parent
  | .below parent =>
      (branch.membership snapshot).filter fun issue =>
        issue.parentIssueID = some parent &&
          (branch.membership snapshot).any fun other => other.id = parent

def Branch.directChildCount (branch : Branch Id) (snapshot : Snapshot Id) (issue : Issue Id) : Nat :=
  match branch.place with
  | .flat => 0
  | _ => (branch.membership snapshot).countP fun child => child.parentIssueID = some issue.id

def branchIdentity (request : RowsRequest) : String :=
  issueTableGroupIdentity request.group ++ ":hierarchy=" ++ toString request.hierarchy

def pageCursor (request : RowsRequest) (groupKey : Option String) : Cursor where
  version := 1
  queryFingerprint := request.query.fingerprint
  groupKey := groupKey
  parentID := request.parentID
  groupOrder := none
  groupSortKey := none
  groupCursorKey := none
  branchIdentity := branchIdentity request
  sortValue := none
  sortIsNull := false
  rowCreatedAt := ""
  rowID := ""

def Branch.respond (branch : Branch Id) (snapshot : Snapshot Id) (request : RowsRequest)
    (groupKey : Option String) (limit : Nat) (isHead : Bool) (cursorPredicate : Issue Id → Bool) :
    RowsResponse Id :=
  let scanned := (((branch.rows snapshot).filter cursorPredicate).insertionSort fun left right =>
    branch.sort.orderBy library left right = true).take (limit + 1)
  let rows := scanned.take limit
  { queryFingerprint := request.query.fingerprint
    groupKey := groupKey
    parentID := request.parentID
    total := if isHead && request.group.kind = "none" && request.parentID.isNone then
        snapshot.issues.countP snapshot.holds
      else 0
    rows := rows.map fun issue => ⟨issue, branch.directChildCount snapshot issue⟩
    branchTotal := rows.length
    nextCursor := if limit < scanned.length then
        rows.getLast?.map (branch.sort.continueAfter library (pageCursor request groupKey))
      else none }

def listIssueTableRows (snapshot : Snapshot Id) (request : RowsRequest) :
    Except Failure (RowsResponse Id) := do
  let (limit, cursor) ← normalizeIssueTablePage request.page
  let groupKey ← normalizeIssueTableGroupKey request.group request.groupKey
  if !request.hierarchy && request.parentID.isSome then
    throw (invalid "parent_id requires hierarchy.enabled=true")
  issueTableCursorMatches cursor request.query.fingerprint groupKey request.parentID
  branchMatches cursor (branchIdentity request)
  let branch ← compileBranch library snapshot.definitions request.group request.query.sort
    request.hierarchy request.parentID groupKey
  let cursorPredicate ← branch.sort.cursorPredicate library cursor
  return branch.respond library snapshot request groupKey limit cursor.isNone cursorPredicate

end Requests

/-- What a client has got when it stops: all pages, the pages it has asked for, or the pages
before the one that was refused. -/
inductive Outcome (Item : Type) where
  | finished (items : List Item)
  | unfinished (items : List Item)
  | rejected (items : List Item) (failure : Failure)

def Outcome.after {Item : Type} (before : List Item) : Outcome Item → Outcome Item
  | .finished items => .finished (before ++ items)
  | .unfinished items => .unfinished (before ++ items)
  | .rejected items failure => .rejected (before ++ items) failure

def Outcome.items {Item : Type} : Outcome Item → List Item
  | .finished items => items
  | .unfinished items => items
  | .rejected items _ => items

def Outcome.isFinished {Item : Type} : Outcome Item → Bool
  | .finished _ => true
  | _ => false

def Outcome.isRejected {Item : Type} : Outcome Item → Bool
  | .rejected _ _ => true
  | _ => false

def RowsRequest.at (request : RowsRequest) (token : Token) : RowsRequest :=
  { request with page := { request.page with cursor := token } }

/-- The client follows `next_cursor`; each request sees a snapshot of its own. -/
def walkRows [LinearOrder Id] (library : Library Id) (request : RowsRequest) :
    Token → List (Snapshot Id) → Outcome (RowResponse Id)
  | _, [] => .unfinished []
  | token, snapshot :: rest =>
      match listIssueTableRows library snapshot (request.at token) with
      | .error failure => .rejected [] failure
      | .ok response =>
          match response.nextCursor with
          | none => .finished response.rows
          | some cursor => (walkRows library request (.cursor cursor) rest).after response.rows

structure Accepted [LinearOrder Id] (library : Library Id) (definitions : List (Property Id))
    (request : RowsRequest) (limit : Nat) (groupKey : Option String) (branch : Branch Id) : Prop where
  limited : pageLimit request.page.limit = .ok limit
  keyed : normalizeIssueTableGroupKey request.group request.groupKey = .ok groupKey
  placed : request.hierarchy = true ∨ request.parentID = none
  compiled : compileBranch library definitions request.group request.query.sort request.hierarchy
    request.parentID groupKey = .ok branch

section Pages

variable [LinearOrder Id] {library : Library Id} {definitions : List (Property Id)}
  {request : RowsRequest} {limit : Nat} {groupKey : Option String} {branch : Branch Id}
  {snapshot : Snapshot Id}

theorem pageLimit_pos {given : Int} (accepted : pageLimit given = .ok limit) : 0 < limit := by
  rw [pageLimit] at accepted
  generalize (if given = 0 then issueTableDefaultPageSize else given) = wanted at accepted
  split at accepted
  · cases accepted
  · rename_i inRange
    obtain rfl := Except.ok.inj accepted
    omega

theorem issueTableOrderBy_wellFormed {sortRequest : SortRequest} {sort : ResolvedSort Id}
    (resolved : issueTableOrderBy library definitions sortRequest = .ok sort) : sort.wellFormed := by
  rw [issueTableOrderBy] at resolved
  split at resolved
  · cases resolved
  · split at resolved
    · cases resolved
      exact fun _ => rfl
    · cases resolved
      exact fun _ => rfl
    · cases resolved
      exact fun isPosition => if_pos isPosition
    · cases resolved

theorem compileBranch_sort {spec : GroupSpec} {sortRequest : SortRequest} {hierarchy : Bool}
    {parentID : Option String}
    (compiled : compileBranch library definitions spec sortRequest hierarchy parentID groupKey =
      .ok branch) : branch.sort.wellFormed := by
  rw [compileBranch] at compiled
  split at compiled
  · cases compiled
  · split at compiled
    · cases compiled
    · rename_i sort resolved
      have wellFormed := issueTableOrderBy_wellFormed resolved
      split at compiled
      · cases compiled
      · repeat' split at compiled
        all_goals cases compiled
        all_goals exact wellFormed

theorem respond_eq {after : Option (Rank library branch.sort)} {predicate : Issue Id → Bool}
    (isAfter : ∀ issue, predicate issue = true ↔
      ∀ bound, after = some bound → bound < branch.sort.rank library issue) (isHead : Bool) :
    (branch.respond library snapshot request groupKey limit isHead predicate).rows.map RowResponse.issue =
        page (branch.sort.rank library) limit after (branch.rows snapshot) ∧
      (branch.respond library snapshot request groupKey limit isHead predicate).nextCursor =
        (pageEnd (branch.sort.rank library) limit after (branch.rows snapshot)).map
          (branch.sort.continueAfter library (pageCursor request groupKey)) := by
  have sorted : ((branch.rows snapshot).filter predicate).insertionSort (fun left right =>
      branch.sort.orderBy library left right = true) =
      following (branch.sort.rank library) after (branch.rows snapshot) := by
    have inFilter : (branch.rows snapshot).filter predicate = (branch.rows snapshot).filter
        fun row => after.all fun bound => decide (bound < branch.sort.rank library row) := by
      refine List.filter_congr fun row _ => ?_
      rw [Bool.eq_iff_iff, isAfter]
      cases after <;> simp
    rw [following, inFilter]
    congr 1
    funext left right
    exact propext orderBy_iff
  constructor
  · simp only [Branch.respond, sorted, List.map_map, List.take_take]
    rw [min_eq_left (Nat.le_succ limit)]
    exact List.map_id _
  · simp only [Branch.respond, sorted, List.take_take, List.length_take]
    rw [min_eq_left (Nat.le_succ limit), pageEnd, page]
    by_cases more : limit < (following (branch.sort.rank library) after (branch.rows snapshot)).length
    · rw [if_pos more, if_pos (by omega)]
    · rw [if_neg more, if_neg (by omega)]
      rfl

theorem listIssueTableRows_at
    (accepted : Accepted library snapshot.definitions request limit groupKey branch) {token : Token}
    {cursor : Option Cursor}
    (decoded : normalizeIssueTablePage (request.at token).page = .ok (limit, cursor))
    (sameQuery : issueTableCursorMatches cursor request.query.fingerprint groupKey request.parentID = .ok ())
    (sameBranch : branchMatches cursor (branchIdentity request) = .ok ()) :
    listIssueTableRows library snapshot (request.at token) =
      (branch.sort.cursorPredicate library cursor).map
        (branch.respond library snapshot (request.at token) groupKey limit cursor.isNone) := by
  have placed : ((!(request.at token).hierarchy && (request.at token).parentID.isSome) = true) = False := by
    rcases accepted.placed with enabled | absent
    · simp [RowsRequest.at, enabled]
    · simp [RowsRequest.at, absent]
  have compiled : compileBranch library snapshot.definitions (request.at token).group
      (request.at token).query.sort (request.at token).hierarchy (request.at token).parentID groupKey =
      .ok branch := accepted.compiled
  have keyed : normalizeIssueTableGroupKey (request.at token).group (request.at token).groupKey =
      .ok groupKey := accepted.keyed
  have query : issueTableCursorMatches cursor (request.at token).query.fingerprint groupKey
      (request.at token).parentID = .ok () := sameQuery
  have identity : branchMatches cursor (branchIdentity (request.at token)) = .ok () := sameBranch
  simp only [listIssueTableRows, decoded, keyed, query, identity, compiled, placed, if_false, bind,
    Except.bind, pure, Except.pure]
  cases branch.sort.cursorPredicate library cursor with
  | error failure => rfl
  | ok predicate => rfl

theorem listIssueTableRows_absent
    (accepted : Accepted library snapshot.definitions request limit groupKey branch) :
    listIssueTableRows library snapshot (request.at .absent) =
      .ok (branch.respond library snapshot (request.at .absent) groupKey limit true fun _ => true) := by
  have decoded : normalizeIssueTablePage (request.at .absent).page = .ok (limit, none) := by
    simp [normalizeIssueTablePage, RowsRequest.at, accepted.limited]
  exact listIssueTableRows_at accepted decoded rfl rfl

theorem listIssueTableRows_continueAfter
    (accepted : Accepted library snapshot.definitions request limit groupKey branch) (row : Issue Id) :
    listIssueTableRows library snapshot (request.at
        (.cursor (branch.sort.continueAfter library (pageCursor request groupKey) row))) =
      (branch.sort.cursorPredicate library
        (some (branch.sort.continueAfter library (pageCursor request groupKey) row))).map
        (branch.respond library snapshot (request.at (.cursor
          (branch.sort.continueAfter library (pageCursor request groupKey) row))) groupKey limit false) := by
  generalize made : branch.sort.continueAfter library (pageCursor request groupKey) row = cursor
  have decoded : normalizeIssueTablePage (request.at (.cursor cursor)).page = .ok (limit, some cursor) := by
    simp [normalizeIssueTablePage, RowsRequest.at, accepted.limited, ← made, ResolvedSort.continueAfter,
      pageCursor]
  have sameQuery : issueTableCursorMatches (some cursor) request.query.fingerprint groupKey
      request.parentID = .ok () := by
    simp [issueTableCursorMatches, ← made, ResolvedSort.continueAfter, pageCursor]
  have sameBranch : branchMatches (some cursor) (branchIdentity request) = .ok () := by
    simp [branchMatches, ← made, ResolvedSort.continueAfter, pageCursor]
  exact listIssueTableRows_at accepted decoded sameQuery sameBranch

end Pages

end MulticaOS.IssueTable
