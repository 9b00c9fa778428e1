import MulticaOS.Lib.Closures
import MulticaOS.Lib.Forests
import MulticaOS.Lib.Tables

/-!
Comment threads: the recursive queries of `comment.sql` that find the root of a comment and the
comments of its thread, and what they find in a forest.
-/

namespace MulticaOS.Resolutions

abbrev Id := Nat

structure Comment where
  id : Id
  issueId : Id
  workspaceId : Id
  parentId : Option Id
  resolvedAt : Option Nat
  resolvedByType : Option String
  resolvedById : Option Id
  deriving DecidableEq

def Comment.resolved (comment : Comment) : Bool := comment.resolvedAt.isSome

def ids (comments : List Comment) : List Id := comments.map Comment.id

def getComment (comments : List Comment) (id : Id) : Option Comment :=
  comments.find? fun comment => comment.id = id

def parentOf (comments : List Comment) (id : Id) : Option Id := (getComment comments id).bind Comment.parentId

/-- `root_of`: the walk up from the rows that it starts with. -/
def rootOf (comments : List Comment) (starts : Comment → Bool) : List Id :=
  ClosureLib.closure (ids comments) (fun lower upper => parentOf comments lower = some upper)
    (ids (comments.filter starts))

def threadRoot (comments : List Comment) (starts : Comment → Bool) : Option Id :=
  (rootOf comments starts).find? fun id => parentOf comments id = none

def replies (comments : List Comment) (issue workspace upper lower : Id) : Bool :=
  comments.any fun row => row.id = lower && row.parentId = some upper && row.issueId = issue &&
    row.workspaceId = workspace

/-- `descendants`: the walk down from the root, inside the issue. -/
def descendants (comments : List Comment) (target issue workspace : Id) : List Id :=
  ClosureLib.closure (ids comments) (replies comments issue workspace)
    (threadRoot comments fun row => row.id = target && row.issueId = issue &&
      row.workspaceId = workspace).toList

def getThreadRoot (comments : List Comment) (comment workspace : Id) : Option Comment :=
  (threadRoot comments fun row => row.id = comment && row.workspaceId = workspace).bind (getComment comments)

structure Threaded (comments : List Comment) : Prop where
  distinct : (ids comments).Nodup
  forest : ForestLib.Forest (parentOf comments)
  parents : ∀ row ∈ comments, ∀ parent, row.parentId = some parent → ∃ upper ∈ comments,
    upper.id = parent ∧ upper.issueId = row.issueId ∧ upper.workspaceId = row.workspaceId

def Path (comments : List Comment) : Id → Id → Prop :=
  Relation.ReflTransGen (ForestLib.Above (parentOf comments))

def SameThread (comments : List Comment) (left right : Id) : Prop :=
  ∃ root, parentOf comments root = none ∧ Path comments root left ∧ Path comments root right

section Threads

variable {comments : List Comment} {row : Comment} {left right root upper lower : Id}

theorem getComment_mem {id : Id} (found : getComment comments id = some row) :
    row ∈ comments ∧ row.id = id :=
  ⟨List.mem_of_find?_eq_some found, by simpa using List.find?_some found⟩

theorem getComment_eq (distinct : (ids comments).Nodup) (member : row ∈ comments) :
    getComment comments row.id = some row := by
  cases found : getComment comments row.id with
  | none => simpa using List.find?_eq_none.mp found row member
  | some other =>
      obtain ⟨listed, same⟩ := getComment_mem found
      rw [List.inj_on_of_nodup_map distinct listed member same]

theorem parentOf_eq (distinct : (ids comments).Nodup) (member : row ∈ comments) :
    parentOf comments row.id = row.parentId := by
  rw [parentOf, getComment_eq distinct member, Option.bind_some]

theorem parentOf_some {id parent : Id} (above : parentOf comments id = some parent) :
    ∃ row ∈ comments, row.id = id ∧ row.parentId = some parent := by
  obtain ⟨row, found, linked⟩ := Option.bind_eq_some_iff.mp above
  obtain ⟨member, same⟩ := getComment_mem found
  exact ⟨row, member, same, linked⟩

theorem mem_ids {id : Id} : id ∈ ids comments ↔ ∃ row ∈ comments, row.id = id := List.mem_map

theorem path_root_unique {other : Id} (top : parentOf comments root = none)
    (otherTop : parentOf comments other = none) (path : Path comments root lower)
    (otherPath : Path comments other lower) : root = other := by
  induction path with
  | refl =>
      cases otherPath with
      | refl => rfl
      | tail _ last =>
          rw [ForestLib.Above, top] at last
          contradiction
  | tail _ last ih =>
      cases otherPath with
      | refl =>
          rw [ForestLib.Above, otherTop] at last
          contradiction
      | tail otherFront otherLast =>
          rw [ForestLib.Above] at last otherLast
          obtain rfl := Option.some.inj (last.symm.trans otherLast)
          exact ih otherFront

theorem SameThread.symm (same : SameThread comments left right) : SameThread comments right left := by
  obtain ⟨root, top, leftPath, rightPath⟩ := same
  exact ⟨root, top, rightPath, leftPath⟩

theorem Threaded.parent_listed (threaded : Threaded comments)
    (above : ForestLib.Above (parentOf comments) upper lower) : upper ∈ ids comments := by
  obtain ⟨row, member, -, linked⟩ := parentOf_some above
  obtain ⟨parent, listed, same, -⟩ := threaded.parents row member upper linked
  exact mem_ids.mpr ⟨parent, listed, same⟩

theorem Threaded.walk_up (threaded : Threaded comments) :
    Relation.ReflTransGen (ClosureLib.Edge (ids comments) fun lower upper => parentOf comments lower = some upper)
      lower upper ↔ Path comments upper lower := by
  constructor
  · intro walk
    induction walk with
    | refl => exact .refl
    | tail _ edge ih => exact .head (by simpa [ForestLib.Above] using edge.2) ih
  · intro path
    induction path with
    | refl => exact .refl
    | tail _ above ih => exact .head ⟨threaded.parent_listed above, by simpa [ForestLib.Above] using above⟩ ih

theorem Threaded.issue_eq (threaded : Threaded comments) (path : Path comments upper lower) {above below : Comment}
    (aboveMember : above ∈ comments) (belowMember : below ∈ comments) (aboveId : above.id = upper)
    (belowId : below.id = lower) :
    below.issueId = above.issueId ∧ below.workspaceId = above.workspaceId := by
  induction path generalizing below with
  | refl =>
      rw [List.inj_on_of_nodup_map threaded.distinct belowMember aboveMember (belowId.trans aboveId.symm)]
      exact ⟨rfl, rfl⟩
  | tail _ last ih =>
      have linked := parentOf_eq threaded.distinct belowMember
      rw [belowId, last] at linked
      obtain ⟨middle, listed, same, issue, workspace⟩ := threaded.parents below belowMember _ linked.symm
      obtain ⟨middleIssue, middleWorkspace⟩ := ih listed same
      exact ⟨issue.symm.trans middleIssue, workspace.symm.trans middleWorkspace⟩

theorem Threaded.threadRoot_spec (threaded : Threaded comments) (member : row ∈ comments)
    {starts : Comment → Bool} (only : ∀ other ∈ comments, starts other = true ↔ other = row) :
    ∃ root, threadRoot comments starts = some root ∧ parentOf comments root = none ∧
      Path comments root row.id := by
  have start : ∀ id, id ∈ ids (comments.filter starts) ↔ id = row.id := by
    intro id
    rw [mem_ids]
    constructor
    · rintro ⟨other, listed, rfl⟩
      obtain ⟨inTable, matched⟩ := List.mem_filter.mp listed
      rw [(only other inTable).mp matched]
    · rintro rfl
      exact ⟨row, List.mem_filter.mpr ⟨member, (only row member).mpr rfl⟩, rfl⟩
  have reached : ∀ id, id ∈ rootOf comments starts ↔ Path comments id row.id := by
    intro id
    rw [rootOf, ClosureLib.mem_closure]
    constructor
    · rintro ⟨source, isStart, walk⟩
      rw [(start source).mp isStart] at walk
      exact threaded.walk_up.mp walk
    · intro path
      exact ⟨row.id, (start _).mpr rfl, threaded.walk_up.mpr path⟩
  cases found : threadRoot comments starts with
  | none =>
      obtain ⟨root, top, path⟩ := threaded.forest.rooted row.id
      have missed := List.find?_eq_none.mp found root ((reached root).mpr path)
      simp [top] at missed
  | some root =>
      have top : parentOf comments root = none := by simpa using List.find?_some found
      exact ⟨root, rfl, top, (reached root).mp (List.mem_of_find?_eq_some found)⟩

theorem Threaded.mem_descendants (threaded : Threaded comments) (member : row ∈ comments) {id : Id} :
    id ∈ descendants comments row.id row.issueId row.workspaceId ↔
      id ∈ ids comments ∧ SameThread comments row.id id := by
  have only : ∀ other ∈ comments, (other.id = row.id && other.issueId = row.issueId &&
      other.workspaceId = row.workspaceId) = true ↔ other = row := by
    intro other listed
    constructor
    · intro matched
      simp only [Bool.and_eq_true, decide_eq_true_eq] at matched
      exact List.inj_on_of_nodup_map threaded.distinct listed member matched.1.1
    · rintro rfl
      simp
  obtain ⟨root, found, top, rowPath⟩ := threaded.threadRoot_spec member only
  have rootListed : root ∈ ids comments := by
    cases rowPath.cases_head with
    | inl same => exact same ▸ mem_ids.mpr ⟨row, member, rfl⟩
    | inr step =>
        obtain ⟨below, above, -⟩ := step
        exact threaded.parent_listed above
  obtain ⟨rootRow, rootMember, rootId⟩ := mem_ids.mp rootListed
  obtain ⟨rowIssue, rowWorkspace⟩ := threaded.issue_eq rowPath rootMember member rootId rfl
  have walk_down : ∀ lower, Relation.ReflTransGen
      (ClosureLib.Edge (ids comments) (replies comments row.issueId row.workspaceId)) root lower ↔
        (lower ∈ ids comments ∧ Path comments root lower) := by
    intro lower
    constructor
    · intro walk
      induction walk with
      | refl => exact ⟨rootListed, .refl⟩
      | tail _ edge ih =>
          obtain ⟨listed, replying⟩ := edge
          obtain ⟨reply, isReply, matched⟩ := List.any_eq_true.mp replying
          simp only [Bool.and_eq_true, decide_eq_true_eq] at matched
          refine ⟨listed, ih.2.tail ?_⟩
          rw [ForestLib.Above, ← matched.1.1.1, parentOf_eq threaded.distinct isReply, matched.1.1.2]
    · rintro ⟨-, path⟩
      induction path with
      | refl => exact .refl
      | tail front last ih =>
          obtain ⟨reply, isReply, same, linked⟩ := parentOf_some last
          obtain ⟨issue, workspace⟩ := threaded.issue_eq (front.tail last) rootMember isReply rootId same
          refine ih.tail ⟨mem_ids.mpr ⟨reply, isReply, same⟩, List.any_eq_true.mpr ⟨reply, isReply, ?_⟩⟩
          simp [same, linked, issue, workspace, rowIssue, rowWorkspace]
  have closure : id ∈ descendants comments row.id row.issueId row.workspaceId ↔
      id ∈ ids comments ∧ Path comments root id := by
    rw [descendants, ClosureLib.mem_closure, found]
    simp only [Option.toList_some, List.mem_singleton, exists_eq_left]
    exact walk_down id
  rw [closure]
  constructor
  · rintro ⟨listed, path⟩
    exact ⟨listed, root, top, rowPath, path⟩
  · rintro ⟨listed, other, otherTop, otherRow, path⟩
    obtain rfl := path_root_unique top otherTop rowPath otherRow
    exact ⟨listed, path⟩

structure SameShape (left right : Comment) : Prop where
  id : right.id = left.id
  parentId : right.parentId = left.parentId
  issueId : right.issueId = left.issueId
  workspaceId : right.workspaceId = left.workspaceId

theorem parentOf_map {change : Comment → Comment} (shape : ∀ row ∈ comments, SameShape row (change row)) :
    parentOf (comments.map change) = parentOf comments := by
  funext wanted
  simp only [parentOf, getComment]
  induction comments with
  | nil => rfl
  | cons row rest ih =>
      have here := shape row (by simp)
      have later := ih fun other member => shape other (by simp [member])
      rw [List.map_cons, List.find?_cons, List.find?_cons, here.id]
      by_cases found : row.id = wanted
      · simp [found, here.parentId]
      · simpa [found] using later

theorem ids_map {change : Comment → Comment} (shape : ∀ row ∈ comments, SameShape row (change row)) :
    ids (comments.map change) = ids comments := by
  rw [ids, ids, List.map_map]
  exact List.map_congr_left fun row member => (shape row member).id

theorem Threaded.map (threaded : Threaded comments) {change : Comment → Comment}
    (shape : ∀ row ∈ comments, SameShape row (change row)) : Threaded (comments.map change) := by
  refine ⟨?_, ?_, ?_⟩
  · rw [ids_map shape]
    exact threaded.distinct
  · rw [parentOf_map shape]
    exact threaded.forest
  · intro row member upper linked
    obtain ⟨old, listed, rfl⟩ := List.mem_map.mp member
    have here := shape old listed
    rw [here.parentId] at linked
    obtain ⟨above, isAbove, same, sameIssue, sameWorkspace⟩ := threaded.parents old listed upper linked
    have there := shape above isAbove
    refine ⟨change above, List.mem_map_of_mem isAbove, there.id.trans same, ?_, ?_⟩
    · rw [there.issueId, here.issueId, sameIssue]
    · rw [there.workspaceId, here.workspaceId, sameWorkspace]

theorem sameThread_congr {others : List Comment} (same : parentOf others = parentOf comments) :
    SameThread others left right ↔ SameThread comments left right := by
  simp only [SameThread, Path, same]

structure NewReply (comments : List Comment) (reply : Comment) : Prop where
  fresh : reply.id ∉ ids comments
  parent : ∀ upper, reply.parentId = some upper → ∃ row ∈ comments,
    row.id = upper ∧ row.issueId = reply.issueId ∧ row.workspaceId = reply.workspaceId

theorem parentOf_append_of_ne {reply : Comment} {id : Id} (other : id ≠ reply.id) :
    parentOf (comments ++ [reply]) id = parentOf comments id := by
  have none : getComment [reply] id = none := by simp [getComment, Ne.symm other]
  rw [parentOf, parentOf, getComment, List.find?_append]
  rw [getComment] at none
  rw [none, Option.or_none]
  rfl

theorem Threaded.ne_fresh (threaded : Threaded comments) {reply : Comment} (new : NewReply comments reply)
    (above : ForestLib.Above (parentOf comments) upper lower) : upper ≠ reply.id := by
  rintro rfl
  exact new.fresh (threaded.parent_listed above)

theorem Threaded.path_append (threaded : Threaded comments) {reply : Comment} (new : NewReply comments reply)
    (old : lower ≠ reply.id) : Path (comments ++ [reply]) upper lower ↔ Path comments upper lower := by
  constructor
  · intro path
    induction path with
    | refl => exact .refl
    | tail _ last ih =>
        rw [ForestLib.Above, parentOf_append_of_ne old] at last
        exact .tail (ih (threaded.ne_fresh new last)) last
  · intro path
    induction path with
    | refl => exact .refl
    | tail _ last ih =>
        refine .tail (ih (threaded.ne_fresh new last)) ?_
        rw [ForestLib.Above, parentOf_append_of_ne old]
        exact last

theorem Threaded.append (threaded : Threaded comments) {reply : Comment} (new : NewReply comments reply) :
    Threaded (comments ++ [reply]) := by
  have accessible : ∀ id, id ≠ reply.id → Acc (ForestLib.Above (parentOf (comments ++ [reply]))) id := by
    intro id
    induction threaded.forest id with
    | intro id _ ih =>
        intro old
        refine ⟨id, fun upper above => ?_⟩
        rw [ForestLib.Above, parentOf_append_of_ne old] at above
        exact ih upper above (threaded.ne_fresh new above)
  refine ⟨?_, fun id => ?_, ?_⟩
  · rw [ids, List.map_append, List.nodup_append]
    refine ⟨threaded.distinct, by simp, ?_⟩
    rintro id listed _ isNew rfl
    rw [List.map_singleton, List.mem_singleton] at isNew
    exact new.fresh (isNew ▸ listed)
  · by_cases old : id = reply.id
    · refine ⟨id, fun upper above => accessible upper ?_⟩
      obtain ⟨row, member, same, linked⟩ := parentOf_some above
      rintro rfl
      rcases List.mem_append.mp member with listed | isNew
      · exact new.fresh (mem_ids.mpr ⟨row, listed, same.trans old⟩)
      · rw [List.mem_singleton.mp isNew] at linked
        obtain ⟨parent, isParent, parentId, -⟩ := new.parent _ linked
        exact new.fresh (mem_ids.mpr ⟨parent, isParent, parentId⟩)
    · exact accessible id old
  · intro row member upper linked
    rcases List.mem_append.mp member with listed | isNew
    · obtain ⟨parent, isParent, rest⟩ := threaded.parents row listed upper linked
      exact ⟨parent, List.mem_append_left _ isParent, rest⟩
    · rw [List.mem_singleton.mp isNew] at linked ⊢
      obtain ⟨parent, isParent, rest⟩ := new.parent upper linked
      exact ⟨parent, List.mem_append_left _ isParent, rest⟩

theorem Threaded.sameThread_append (threaded : Threaded comments) {reply : Comment}
    (new : NewReply comments reply) (leftListed : left ∈ ids comments) (rightListed : right ∈ ids comments) :
    SameThread (comments ++ [reply]) left right ↔ SameThread comments left right := by
  have leftOld : left ≠ reply.id := fun same => new.fresh (same ▸ leftListed)
  have rightOld : right ≠ reply.id := fun same => new.fresh (same ▸ rightListed)
  constructor
  · rintro ⟨root, top, leftPath, rightPath⟩
    have leftBefore := (threaded.path_append new leftOld).mp leftPath
    have rootOld : root ≠ reply.id := by
      rintro rfl
      rcases leftBefore.cases_head with same | ⟨below, above, -⟩
      · exact leftOld same.symm
      · exact threaded.ne_fresh new above rfl
    exact ⟨root, parentOf_append_of_ne rootOld ▸ top, leftBefore, (threaded.path_append new rightOld).mp rightPath⟩
  · rintro ⟨root, top, leftPath, rightPath⟩
    have rootOld : root ≠ reply.id := by
      rintro rfl
      rcases leftPath.cases_head with same | ⟨below, above, -⟩
      · exact leftOld same.symm
      · exact threaded.ne_fresh new above rfl
    exact ⟨root, (parentOf_append_of_ne rootOld).trans top, (threaded.path_append new leftOld).mpr leftPath,
      (threaded.path_append new rightOld).mpr rightPath⟩

end Threads

end MulticaOS.Resolutions
