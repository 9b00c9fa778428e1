import MulticaOS.IssueTable.Rows

/-!
What a client gets that follows the cursors of a table: every issue that stays where it is,
once and in order, unless a page ends at a date that the cursor's check has no layout for.
-/

namespace MulticaOS.IssueTable

open KeysetLib

variable {Id : Type} [LinearOrder Id]

/-- What a walk may rely on: the request is one that the code answers, the definitions stay
as they are, ids are keys, and the texts of a row are read back. -/
structure Reading (library : Library Id) (definitions : List (Property Id)) (request : RowsRequest)
    (limit : Nat) (groupKey : Option String) (branch : Branch Id) (snapshots : List (Snapshot Id)) :
    Prop where
  accepted : Accepted library definitions request limit groupKey branch
  definitions : ∀ snapshot ∈ snapshots, snapshot.definitions = definitions
  unique : ∀ snapshot ∈ snapshots, (snapshot.issues.map Issue.id).Nodup
  renders : ∀ snapshot ∈ snapshots, ∀ issue ∈ snapshot.issues, Renders library branch.sort issue

theorem Reading.tail {library : Library Id} {definitions : List (Property Id)} {request : RowsRequest}
    {limit : Nat} {groupKey : Option String} {branch : Branch Id} {snapshot : Snapshot Id}
    {rest : List (Snapshot Id)}
    (reading : Reading library definitions request limit groupKey branch (snapshot :: rest)) :
    Reading library definitions request limit groupKey branch rest where
  accepted := reading.accepted
  definitions other member := reading.definitions other (by simp [member])
  unique other member := reading.unique other (by simp [member])
  renders other member := reading.renders other (by simp [member])

section Branches

variable {library : Library Id} {branch : Branch Id} {snapshot : Snapshot Id}

theorem rows_sublist (branch : Branch Id) (snapshot : Snapshot Id) :
    (branch.rows snapshot).Sublist snapshot.issues := by
  have inMembership : (branch.membership snapshot).Sublist snapshot.issues := List.filter_sublist
  rw [Branch.rows]
  split <;> exact List.filter_sublist.trans inMembership

omit [LinearOrder Id] in
theorem rank_id {left right : Issue Id} {sort : ResolvedSort Id}
    (same : sort.rank library left = sort.rank library right) : left.id = right.id := by
  have inner := congrArg (fun rank => (ofLex (ofLex rank).2).2) same
  exact OrderDual.toDual_inj.mp inner

theorem rank_nodup (unique : (snapshot.issues.map Issue.id).Nodup) :
    ((branch.rows snapshot).map (branch.sort.rank library)).Nodup := by
  have ids := unique.sublist ((rows_sublist branch snapshot).map Issue.id)
  rw [List.nodup_iff_pairwise_ne, List.pairwise_map] at ids ⊢
  exact ids.imp fun different same => different (rank_id same)

end Branches

section Walks

variable {library : Library Id} {definitions : List (Property Id)} {request : RowsRequest}
  {limit : Nat} {groupKey : Option String} {branch : Branch Id} {snapshots : List (Snapshot Id)}

inductive Continues (library : Library Id) (request : RowsRequest) (groupKey : Option String)
    (branch : Branch Id) : Token → Option (Rank library branch.sort) → Prop where
  | head : Continues library request groupKey branch .absent none
  | next (row : Issue Id) (renders : Renders library branch.sort row)
      (inLayout : branch.sort.dateInLayout row = true) :
      Continues library request groupKey branch
        (.cursor (branch.sort.continueAfter library (pageCursor request groupKey) row))
        (some (branch.sort.rank library row))

theorem listIssueTableRows_page {snapshot : Snapshot Id} {token : Token}
    {after : Option (Rank library branch.sort)}
    (accepted : Accepted library snapshot.definitions request limit groupKey branch)
    (continues : Continues library request groupKey branch token after) :
    ∃ response, listIssueTableRows library snapshot (request.at token) = .ok response ∧
      response.rows.map RowResponse.issue =
        page (branch.sort.rank library) limit after (branch.rows snapshot) ∧
      response.nextCursor =
        (pageEnd (branch.sort.rank library) limit after (branch.rows snapshot)).map
          (branch.sort.continueAfter library (pageCursor request groupKey)) := by
  cases continues with
  | head =>
      refine ⟨_, listIssueTableRows_absent accepted, ?_⟩
      exact respond_eq (fun _ => by simp) true
  | next row renders inLayout =>
      obtain ⟨predicate, compiled, isAfter⟩ := cursorPredicate_continueAfter
        (compileBranch_sort accepted.compiled) renders
        ((readable_eq renders).trans inLayout)
      rw [listIssueTableRows_continueAfter accepted row, compiled]
      refine ⟨_, rfl, respond_eq (fun issue => ?_) false⟩
      rw [isAfter]
      simp

theorem walkRows_eq (reading : Reading library definitions request limit groupKey branch snapshots)
    {token : Token} {after : Option (Rank library branch.sort)}
    (continues : Continues library request groupKey branch token after)
    (inLayout : ∀ row ∈ ends (branch.sort.rank library) limit after (snapshots.map branch.rows),
      branch.sort.dateInLayout row = true) :
    ∃ rows, rows.map RowResponse.issue =
        (walk (branch.sort.rank library) limit after (snapshots.map branch.rows)).1 ∧
      walkRows library request token snapshots =
        if (walk (branch.sort.rank library) limit after (snapshots.map branch.rows)).2 then
          .finished rows
        else .unfinished rows := by
  induction snapshots generalizing token after with
  | nil => exact ⟨[], rfl, rfl⟩
  | cons snapshot rest ih =>
      have sameDefinitions := reading.definitions snapshot (by simp)
      obtain ⟨response, answered, rows, next⟩ := listIssueTableRows_page
        (sameDefinitions ▸ reading.accepted) continues
      rw [walkRows, answered, List.map_cons, walk]
      dsimp only
      rw [next]
      cases ended : pageEnd (branch.sort.rank library) limit after (branch.rows snapshot) with
      | none => exact ⟨response.rows, rows, rfl⟩
      | some last =>
          have further := reading.tail
          cases rest with
          | nil =>
              refine ⟨response.rows, ?_, ?_⟩
              · simpa [walk] using rows
              · simp [walk, walkRows, Outcome.after]
          | cons second others =>
              rw [List.map_cons, List.map_cons, ends, ended] at inLayout
              have lastMember := (mem_following.mp (page_sublist.subset (pageEnd_mem ended))).1
              have lastRenders := reading.renders snapshot (by simp) last
                ((rows_sublist branch snapshot).subset lastMember)
              obtain ⟨later, laterRows, laterWalk⟩ := ih further
                (.next last lastRenders (inLayout last (by simp)))
                fun row member => inLayout row (by simp [← List.map_cons, member])
              refine ⟨response.rows ++ later, ?_, ?_⟩
              · rw [List.map_append, rows, laterRows]
              · dsimp only [Option.map_some]
                rw [laterWalk]
                split <;> rfl

theorem walkRows_isRejected
    (reading : Reading library definitions request limit groupKey branch snapshots)
    {token : Token} {after : Option (Rank library branch.sort)}
    (continues : Continues library request groupKey branch token after) {bad : Issue Id}
    (isEnd : bad ∈ ends (branch.sort.rank library) limit after (snapshots.map branch.rows))
    (outside : branch.sort.dateInLayout bad = false) :
    (walkRows library request token snapshots).isRejected = true := by
  induction snapshots generalizing token after with
  | nil => simp [ends] at isEnd
  | cons snapshot rest ih =>
      cases rest with
      | nil => simp [ends] at isEnd
      | cons second others =>
          have sameDefinitions := reading.definitions snapshot (by simp)
          obtain ⟨response, answered, -, next⟩ := listIssueTableRows_page
            (sameDefinitions ▸ reading.accepted) continues
          rw [List.map_cons, List.map_cons, ends] at isEnd
          cases ended : pageEnd (branch.sort.rank library) limit after (branch.rows snapshot) with
          | none => simp [ended] at isEnd
          | some last =>
              simp only [ended, List.mem_cons] at isEnd
              have lastMember := (mem_following.mp (page_sublist.subset (pageEnd_mem ended))).1
              have lastRenders := reading.renders snapshot (by simp) last
                ((rows_sublist branch snapshot).subset lastMember)
              rw [walkRows, answered]
              dsimp only
              rw [next, ended]
              dsimp only [Option.map_some]
              cases inLayout : branch.sort.dateInLayout last with
              | false =>
                  have unreadable := (readable_eq lastRenders).trans inLayout
                  rw [walkRows, listIssueTableRows_continueAfter
                    (reading.definitions second (by simp) ▸ reading.accepted) last,
                    cursorPredicate_refused lastRenders unreadable]
                  rfl
              | true =>
                  have isLater : bad ∈ ends (branch.sort.rank library) limit
                      (some (branch.sort.rank library last)) ((second :: others).map branch.rows) := by
                    rcases isEnd with rfl | later
                    · rw [outside] at inLayout
                      contradiction
                    · exact later
                  have rejected := ih reading.tail (.next last lastRenders inLayout) isLater
                  revert rejected
                  cases walkRows library request (.cursor (branch.sort.continueAfter library
                    (pageCursor request groupKey) last)) (second :: others) with
                  | rejected items failure => exact fun _ => rfl
                  | _ => exact id

end Walks

section Clients

variable (library : Library Id) (branch : Branch Id) (snapshots : List (Snapshot Id))

def Stays (id : Id) : Prop :=
  ∃ value createdAt, ∀ snapshot ∈ snapshots, ∃ row ∈ branch.rows snapshot,
    row.id = id ∧ branch.sort.value library row = value ∧ row.createdAt = createdAt

/-- No request is refused; what is returned is in order, and has an issue that stays at most
once and, when the walk is at its end, once; and the walk is at its end when it has had more
requests than there are versions of rows. -/
structure NeitherSkipsNorRepeats (outcome : Outcome (RowResponse Id)) : Prop where
  answered : outcome.isRejected = false
  sorted : outcome.items.Pairwise fun left right => branch.sort.before library left.issue right.issue = true
  atMostOnce : ∀ id, Stays library branch snapshots id →
    outcome.items.countP (fun row => row.issue.id = id) ≤ 1
  once : ∀ id, Stays library branch snapshots id → outcome.isFinished = true →
    outcome.items.countP (fun row => row.issue.id = id) = 1
  ends : ∀ versions : List (Issue Id), (∀ snapshot ∈ snapshots, ∀ row ∈ branch.rows snapshot,
    row ∈ versions) → versions.length < snapshots.length → outcome.isFinished = true

end Clients

section Results

variable {library : Library Id} {definitions : List (Property Id)} {request : RowsRequest}
  {limit : Nat} {groupKey : Option String} {branch : Branch Id} {snapshots : List (Snapshot Id)}

theorem stable_of_stays (unique : ∀ snapshot ∈ snapshots, (snapshot.issues.map Issue.id).Nodup) {id : Id}
    (stays : Stays library branch snapshots id) :
    ∃ place, Stable (branch.sort.rank library) (snapshots.map branch.rows)
      (fun issue => decide (issue.id = id)) place := by
  obtain ⟨value, createdAt, each⟩ := stays
  refine ⟨toLex (place library branch.sort value, toLex (OrderDual.toDual createdAt, OrderDual.toDual id)),
    fun rows listed => ?_⟩
  obtain ⟨snapshot, member, rfl⟩ := List.mem_map.mp listed
  obtain ⟨row, here, rfl, rfl, rfl⟩ := each snapshot member
  have ids := (unique snapshot member).sublist ((rows_sublist branch snapshot).map Issue.id)
  constructor
  · have atMost : (branch.rows snapshot).countP (fun issue => decide (issue.id = row.id)) ≤ 1 := by
      refine TableLib.countP_le_one ids fun left _ right _ leftSame rightSame => ?_
      rw [of_decide_eq_true leftSame, of_decide_eq_true rightSame]
    have atLeast := List.countP_pos_iff (p := fun issue : Issue Id => decide (issue.id = row.id)) |>.mpr
      ⟨row, here, by simp⟩
    omega
  · intro other there same
    obtain rfl := List.inj_on_of_nodup_map ids there here (of_decide_eq_true same)
    rfl

theorem isFinished_of_ite {Item : Type} (ended : Bool) (items : List Item) :
    (if ended then Outcome.finished items else .unfinished items).isFinished = ended ∧
      (if ended then Outcome.finished items else .unfinished items).items = items ∧
      (if ended then Outcome.finished items else .unfinished items).isRejected = false := by
  cases ended <;> exact ⟨rfl, rfl, rfl⟩

theorem countP_issue (rows : List (RowResponse Id)) (id : Id) :
    rows.countP (fun row => decide (row.issue.id = id)) =
      (rows.map RowResponse.issue).countP fun issue => decide (issue.id = id) := by
  rw [List.countP_map]
  rfl

end Results

def sampleUUID (id : Fin 3) : String := "00000000-0000-4000-8000-00000000000" ++ toString id.val

def sampleTime (time : Int) : String :=
  "2026-01-01T00:00:0" ++ toString (time / 1000000 - 1767225600) ++ "Z"

def sampleTimes : List Int := [1767225600000000, 1767225601000000, 1767225602000000]

def sampleLibrary : Library (Fin 3) where
  formatTime := sampleTime
  parseTime text := sampleTimes.find? fun time => sampleTime time = text
  parsePostgresTime _ := false
  parseFloat _ := false
  toLower text := text
  uuidToString := sampleUUID
  parseUUID text := [0, 1, 2].find? fun id => sampleUUID id = text
  uuidParse text := [0, 1, 2].find? fun id => sampleUUID id = text
  lower text := text
  collation := inferInstance
  timestampText time := sampleTime time
  doubleText value := toString value.num
  numeric _ := 0
  numericText value := toString value.num
  jsonText _ := ""
  cast
    | .date, text =>
        if text = "0001-06-15 BC" then some (toLex (0, toLex (6, 15)))
        else if text = "2026-03-01" then some (toLex (2026, toLex (3, 1)))
        else none
    | _, _ => none

def sampleIssue (id : Fin 3) (createdAt : Int) (dueDate : Option CalendarDate) : Issue (Fin 3) where
  id := id
  number := id.val + 1
  title := "issue"
  status := .todo
  priority := .none
  assigneeType := none
  assigneeID := none
  projectID := none
  parentIssueID := none
  position := 0
  startDate := none
  dueDate := dueDate
  createdAt := createdAt
  updatedAt := createdAt
  properties _ := none

def sampleSnapshot (issues : List (Issue (Fin 3))) : Snapshot (Fin 3) where
  issues := issues
  definitions := []
  holds _ := true
  actorName _ _ := none
  projectTitle _ := none

def sampleRequest (direction : String) : RowsRequest where
  query := ⟨"sha256:0", ⟨"due_date", direction⟩⟩
  group := ⟨"none", "", false, "", "", none⟩
  groupKey := none
  hierarchy := false
  parentID := none
  page := ⟨1, .absent⟩

def sampleBranch (direction : Direction) : Branch (Fin 3) :=
  ⟨.ungrouped, fun _ => true, ⟨.dueDate, direction⟩, .flat⟩

def dated : Issue (Fin 3) := sampleIssue 0 1767225600000000 (some ⟨2026, 3, 1, by decide⟩)

def undated : Issue (Fin 3) := sampleIssue 1 1767225601000000 none

def ancient : Issue (Fin 3) := sampleIssue 2 1767225602000000 (some ⟨0, 6, 15, by decide⟩)

theorem sample_renders {direction : Direction} {issue : Issue (Fin 3)}
    (member : issue ∈ [dated, undated, ancient]) :
    Renders sampleLibrary (sampleBranch direction).sort issue := by
  simp only [List.mem_cons, List.not_mem_nil, or_false] at member
  rcases member with rfl | rfl | rfl
  · refine ⟨by decide, by decide, by decide, fun key here => ?_, fun key _ types => ?_⟩
    · cases here
      rfl
    · simp [sampleBranch, ResolvedSort.castType, SortExpression.castType] at types
  · refine ⟨by decide, by decide, by decide, fun key here => ?_, fun key _ types => ?_⟩
    · cases here
    · simp [sampleBranch, ResolvedSort.castType, SortExpression.castType] at types
  · refine ⟨by decide, by decide, by decide, fun key here => ?_, fun key _ types => ?_⟩
    · cases here
      rfl
    · simp [sampleBranch, ResolvedSort.castType, SortExpression.castType] at types

theorem sample_reading {direction : Direction} (name : String) {snapshots : List (Snapshot (Fin 3))}
    (accepted : Accepted sampleLibrary [] (sampleRequest name) 1 none (sampleBranch direction))
    (definitions : ∀ snapshot ∈ snapshots, snapshot.definitions = [])
    (unique : ∀ snapshot ∈ snapshots, (snapshot.issues.map Issue.id).Nodup)
    (listed : ∀ snapshot ∈ snapshots, ∀ issue ∈ snapshot.issues, issue ∈ [dated, undated, ancient]) :
    Reading sampleLibrary [] (sampleRequest name) 1 none (sampleBranch direction) snapshots :=
  ⟨accepted, definitions, unique, fun snapshot member issue inside =>
    sample_renders (listed snapshot member issue inside)⟩

def datedSnapshots : List (Snapshot (Fin 3)) :=
  [sampleSnapshot [undated, dated], sampleSnapshot [undated, dated, ancient],
    sampleSnapshot [undated, dated, ancient]]

def ancientSnapshots : List (Snapshot (Fin 3)) :=
  [sampleSnapshot [ancient, undated], sampleSnapshot [ancient, undated]]

end MulticaOS.IssueTable
