import MulticaOS.IssueTable.Keys
import MulticaOS.Lib.Lists

/-!
The walk of a client over the headers of one snapshot: it reads a header for every row of
`grouped`, in the order of the database, and the same total on every page.
-/

namespace MulticaOS.IssueTable

open KeysetLib

variable {Id : Type}

def Collated (_library : Library Id) : Type := String

instance (library : Library Id) : LinearOrder (Collated library) := library.collation

abbrev HeaderRank (library : Library Id) : Type := Int ×ₗ Collated library ×ₗ Collated library

def collated (library : Library Id) (text : String) : Collated library := text

def GroupsRequest.at (request : GroupsRequest) (token : Token) : GroupsRequest :=
  { request with page := { request.page with cursor := token } }

section Walk

variable [LinearOrder Id] (library : Library Id)

def ResolvedGroup.headerRank (group : ResolvedGroup Id) (snapshot : Snapshot Id) (row : GroupRow) :
    HeaderRank library :=
  toLex (group.orderExpression row.value,
    toLex (collated library (group.sortExpression library snapshot row.value), collated library row.value))

def walkGroups (issuePrefix : String) (request : GroupsRequest) :
    Token → List (Snapshot Id) → Outcome GroupsResponse
  | _, [] => .unfinished []
  | token, snapshot :: rest =>
      match listIssueTableGroups library snapshot issuePrefix (request.at token) with
      | .error failure => .rejected [] failure
      | .ok response =>
          match response.nextCursor with
          | none => .finished [response]
          | some cursor => (walkGroups issuePrefix request (.cursor cursor) rest).after [response]

end Walk

section Pages

variable [LinearOrder Id] {library : Library Id} {snapshot : Snapshot Id} {group : ResolvedGroup Id}

omit [LinearOrder Id] in
theorem less_text {left right : String} : CastType.less library .text left right = true ↔
    collated library left < collated library right :=
  @decide_eq_true_iff (collated library left < collated library right) _

theorem headerBefore_iff (left right : GroupRow) :
    group.headerBefore library snapshot (group.orderExpression left.value)
        (group.sortExpression library snapshot left.value) left.value right.value = true ↔
      group.headerRank library snapshot left < group.headerRank library snapshot right := by
  rw [ResolvedGroup.headerBefore, ResolvedGroup.headerRank, ResolvedGroup.headerRank,
    Prod.Lex.toLex_lt_toLex, Prod.Lex.toLex_lt_toLex]
  simp only [Bool.or_eq_true, Bool.and_eq_true, decide_eq_true_eq, less_text]
  rfl

inductive HeaderContinues (library : Library Id) (snapshot : Snapshot Id) (group : ResolvedGroup Id)
    (request : GroupsRequest) : Token → Option (HeaderRank library) → Prop where
  | head : HeaderContinues library snapshot group request .absent none
  | next (row : GroupRow) :
      HeaderContinues library snapshot group request
        (.cursor (group.continueAfter library snapshot request row))
        (some (group.headerRank library snapshot row))

variable {issuePrefix : String} {request : GroupsRequest} {limit : Nat}

def Heads (library : Library Id) (snapshot : Snapshot Id) (issuePrefix : String) (group : ResolvedGroup Id)
    (row : GroupRow) (header : Descriptor) : Prop :=
  group.descriptor library row (group.contextExpression library snapshot issuePrefix row.value) = .ok header

theorem groupCursor_spec {token : Token} {after : Option (HeaderRank library)}
    (limited : pageLimit request.page.limit = .ok limit)
    (continues : HeaderContinues library snapshot group request token after) :
    ∃ cursor isAfter,
      normalizeIssueTablePage (request.at token).page = .ok (limit, cursor) ∧
      issueTableCursorMatches cursor request.query.fingerprint
        (some (issueTableGroupIdentity request.group)) none = .ok () ∧
      groupCursor library snapshot group cursor = .ok isAfter ∧
      ∀ row, isAfter row = true ↔
        ∀ bound, after = some bound → bound < group.headerRank library snapshot row := by
  cases continues with
  | head =>
      refine ⟨none, fun _ => true, ?_, rfl, rfl, fun row => by simp⟩
      simp [normalizeIssueTablePage, GroupsRequest.at, limited]
  | next last =>
      refine ⟨some (group.continueAfter library snapshot request last), _, ?_, ?_, rfl, fun row => ?_⟩
      · simp [normalizeIssueTablePage, GroupsRequest.at, limited, ResolvedGroup.continueAfter]
      · simp [issueTableCursorMatches, ResolvedGroup.continueAfter]
      · rw [headerBefore_iff]
        simp

theorem listIssueTableGroups_page {token : Token} {after : Option (HeaderRank library)}
    (limited : pageLimit request.page.limit = .ok limit)
    (resolved : resolveIssueTableGroup library snapshot.definitions request.group false = .ok group)
    (headed : ∀ row ∈ group.grouped library snapshot request.group.includeEmpty,
      ∃ header, Heads library snapshot issuePrefix group row header)
    (continues : HeaderContinues library snapshot group request token after) :
    let rows := group.grouped library snapshot request.group.includeEmpty
    let rank := group.headerRank library snapshot
    ∃ response, listIssueTableGroups library snapshot issuePrefix (request.at token) = .ok response ∧
      List.Forall₂ (Heads library snapshot issuePrefix group) (page rank limit after rows) response.groups ∧
      response.nextCursor =
        (pageEnd rank limit after rows).map (group.continueAfter library snapshot request) ∧
      (following rank after rows ≠ [] → response.total = (rows.map GroupRow.visibleCount).sum) ∧
      (rows = [] → response.total = 0) := by
  intro rows rank
  obtain ⟨cursor, isAfter, decoded, sameQuery, compiled, after_iff⟩ := groupCursor_spec limited continues
  have sorted : (rows.filter isAfter).insertionSort (fun left right =>
      group.headerBefore library snapshot (group.orderExpression right.value)
        (group.sortExpression library snapshot right.value) right.value left.value = false) =
      following rank after rows := by
    have inFilter : rows.filter isAfter =
        rows.filter fun row => after.all fun bound => decide (bound < rank row) := by
      refine List.filter_congr fun row _ => ?_
      rw [Bool.eq_iff_iff, after_iff]
      cases after <;> simp [rank]
    rw [following, inFilter]
    congr 1
    funext left right
    rw [← Bool.not_eq_true, headerBefore_iff, not_lt]
  obtain ⟨headers, mapped, related⟩ := ListLib.mapM_of_ok
    (fun row : GroupRow => group.descriptor library row
      (group.contextExpression library snapshot issuePrefix row.value))
    ((following rank after rows).take (limit + 1)) fun row member =>
      headed row (mem_following.mp ((List.take_sublist _ _).subset member)).1
  have answered : listIssueTableGroups library snapshot issuePrefix (request.at token) = .ok
      { queryFingerprint := request.query.fingerprint
        total := if ((following rank after rows).take (limit + 1)).isEmpty then 0
          else (rows.map GroupRow.visibleCount).sum
        groups := headers.take limit
        nextCursor := if limit < ((following rank after rows).take (limit + 1)).length then
            (((following rank after rows).take (limit + 1)).take limit).getLast?.map
              (group.continueAfter library snapshot request)
          else none } := by
    simp only [listIssueTableGroups, decoded, bind, Except.bind]
    rw [show (request.at token).group = request.group from rfl,
      show (request.at token).query = request.query from rfl, resolved]
    simp only [sameQuery, compiled]
    rw [show group.grouped library snapshot request.group.includeEmpty = rows from rfl, sorted]
    simp only [mapped, pure, Except.pure]
    rfl
  refine ⟨_, answered, ?_, ?_, fun nonempty => ?_, fun empty => ?_⟩
  · have kept := List.forall₂_take limit related
    rwa [List.take_take, min_eq_left (Nat.le_succ limit)] at kept
  · simp only [List.take_take, List.length_take]
    rw [min_eq_left (Nat.le_succ limit), pageEnd, page]
    by_cases more : limit < (following rank after rows).length
    · rw [if_pos more, if_pos (by omega)]
    · rw [if_neg more, if_neg (by omega)]
      rfl
  · simp [nonempty]
  · simp [empty, following]

theorem walkGroups_replicate {token : Token} {after : Option (HeaderRank library)}
    (limited : pageLimit request.page.limit = .ok limit)
    (resolved : resolveIssueTableGroup library snapshot.definitions request.group false = .ok group)
    (headed : ∀ row ∈ group.grouped library snapshot request.group.includeEmpty,
      ∃ header, Heads library snapshot issuePrefix group row header)
    (unique : ((group.grouped library snapshot request.group.includeEmpty).map
      (group.headerRank library snapshot)).Nodup)
    (continues : HeaderContinues library snapshot group request token after)
    (ahead : group.grouped library snapshot request.group.includeEmpty ≠ [] →
      following (group.headerRank library snapshot) after
        (group.grouped library snapshot request.group.includeEmpty) ≠ []) {requests : Nat}
    (enough : (following (group.headerRank library snapshot) after
      (group.grouped library snapshot request.group.includeEmpty)).length < requests) :
    ∃ pages, walkGroups library issuePrefix request token (List.replicate requests snapshot) =
        .finished pages ∧
      List.Forall₂ (Heads library snapshot issuePrefix group)
        (following (group.headerRank library snapshot) after
          (group.grouped library snapshot request.group.includeEmpty))
        (pages.flatMap GroupsResponse.groups) ∧
      ∀ page ∈ pages, page.total =
        ((group.grouped library snapshot request.group.includeEmpty).map GroupRow.visibleCount).sum := by
  induction requests generalizing token after with
  | zero => omega
  | succ requests ih =>
      obtain ⟨response, answered, heads, next, total, noTotal⟩ :=
        listIssueTableGroups_page limited resolved headed continues
      have exact : response.total =
          ((group.grouped library snapshot request.group.includeEmpty).map GroupRow.visibleCount).sum := by
        by_cases empty : group.grouped library snapshot request.group.includeEmpty = []
        · rw [noTotal empty, empty]
          rfl
        · exact total (ahead empty)
      rw [List.replicate_succ, walkGroups, answered]
      dsimp only
      rw [next]
      cases ended : pageEnd (group.headerRank library snapshot) limit after
          (group.grouped library snapshot request.group.includeEmpty) with
      | none =>
          refine ⟨[response], rfl, ?_, fun page member => ?_⟩
          · rw [page_eq_following (pageLimit_pos limited) ended] at heads
            simpa using heads
          · rw [List.mem_singleton.mp member, exact]
      | some last =>
          have split := following_eq_page_append unique ended
          have nonempty := List.length_pos_of_mem (pageEnd_mem ended)
          have further : following (group.headerRank library snapshot)
              (some (group.headerRank library snapshot last))
              (group.grouped library snapshot request.group.includeEmpty) ≠ [] := by
            intro finished
            rw [pageEnd] at ended
            split at ended
            · rename_i more
              rw [finished, List.append_nil] at split
              have bounded := List.length_take_le limit (following (group.headerRank library snapshot) after
                (group.grouped library snapshot request.group.includeEmpty))
              rw [← page, ← split] at bounded
              omega
            · cases ended
          have shorter : (following (group.headerRank library snapshot)
              (some (group.headerRank library snapshot last))
              (group.grouped library snapshot request.group.includeEmpty)).length < requests := by
            rw [split, List.length_append] at enough
            omega
          obtain ⟨pages, walked, laterHeads, totals⟩ := ih (.next last) (fun _ => further) shorter
          refine ⟨response :: pages, ?_, ?_, fun page member => ?_⟩
          · dsimp only [Option.map_some]
            rw [walked]
            rfl
          · rw [split, List.flatMap_cons]
            exact List.rel_append heads laterHeads
          · rcases List.mem_cons.mp member with rfl | later
            · exact exact
            · exact totals page later

end Pages

end MulticaOS.IssueTable
