import MulticaOS.ChildDone.Notices
import MulticaOS.Lib.Lists
import MulticaOS.Lib.Runs

/-!
Concurrent updates that each close one child of a parent: every update reads its child, writes the
row, and only then reads the siblings.  One statement is one step, in any interleaving.
-/

namespace MulticaOS.ChildDone

structure Family where
  parent : Issue
  children : List Issue
  unique : (children.map Issue.id).Nodup
  linked : ∀ child ∈ children, child.parentIssueId = some parent.id

inductive Phase where
  | waiting
  | loaded (prev : Issue)
  | committed (prev issue : Issue)
  | finished (notice : Option Notice)
  deriving DecidableEq

structure Request where
  child : Id
  status : IssueTable.Status
  closes : isTerminalChildStatus status = true

structure Update where
  request : Request
  phase : Phase

structure State where
  parent : Issue
  children : List Issue
  updates : List Update

def start (family : Family) (requests : List Request) : State :=
  ⟨family.parent, family.children, requests.map fun request => ⟨request, .waiting⟩⟩

/-- `UpdateIssue` with the copy that the request read first: the nullable columns are written back. -/
def updateIssue (request : Request) (prev : Issue) (row : Issue) : Issue :=
  { row with
    status := request.status
    stage := prev.stage
    parentIssueId := prev.parentIssueId
    assigneeType := prev.assigneeType }

def listChildIssues (children : List Issue) : List Issue :=
  children.insertionSort fun left right => left.number ≤ right.number

def Update.next (parent : Issue) (children : List Issue) (update : Update) : List Issue × Phase :=
  let own := fun child : Issue => decide (child.id = update.request.child)
  match update.phase with
  | .waiting =>
      match children.find? own with
      | none => (children, .finished none)
      | some prev => (children, .loaded prev)
  | .loaded prev =>
      match children.find? own with
      | none => (children, .finished none)
      | some row =>
          (TableLib.updateWhere own (updateIssue update.request prev) children,
            .committed prev (updateIssue update.request prev row))
  | .committed prev issue =>
      if prev.status = issue.status then (children, .finished none)
      else
        let queries : Queries := ⟨fun _ => some parent, fun _ => some (listChildIssues children)⟩
        (children, .finished (notifyParentOfChildDone queries prev issue))
  | .finished notice => (children, .finished notice)

def step (state : State) (index : Nat) : State :=
  match state.updates[index]? with
  | none => state
  | some update =>
      let (children, phase) := update.next state.parent state.children
      { state with children := children, updates := state.updates.set index { update with phase := phase } }

/-! What an update that closed a child of the stages up to `stage` still has to do, or has done. -/

def Phase.onWay (parent : Issue) (stage : Int) : Phase → Prop
  | .committed prev issue => isTerminalChildStatus prev.status = false ∧
      isTerminalChildStatus issue.status = true ∧ issue.parentIssueId = some parent.id ∧
        ∃ own, issue.stage = some own ∧ own ≤ stage
  | .finished (some notice) => notice.staged = true ∧ notice.closedStage ≤ stage
  | _ => False

def Phase.current (children : List Issue) (child : Id) : Phase → Prop
  | .loaded prev => ∃ row ∈ children, row.id = child ∧ row.stage = prev.stage ∧
      row.parentIssueId = prev.parentIssueId ∧
        (isTerminalChildStatus prev.status = true → isTerminalChildStatus row.status = true)
  | _ => True

def Held (children : List Issue) (stage : Int) : Prop := ∃ child ∈ children, child.holds stage = true

/-- The invariant of a run: the stages up to `stage` are still held, or an update is on its way to
the notice or has posted it. -/
structure Watched (parent : Issue) (stage : Int) (state : State) : Prop where
  sameParent : state.parent = parent
  unique : (state.children.map Issue.id).Nodup
  linked : ∀ child ∈ state.children, child.parentIssueId = some parent.id
  staged : siblingsAreStaged state.children = true
  current : ∀ update ∈ state.updates, update.phase.current state.children update.request.child
  noticed : Held state.children stage ∨ ∃ update ∈ state.updates, update.phase.onWay parent stage

variable {parent : Issue} {children : List Issue} {stage : Int}

theorem mem_listChildIssues {child : Issue} : child ∈ listChildIssues children ↔ child ∈ children := by
  rw [listChildIssues, List.mem_insertionSort]

theorem siblingsAreStaged_of_mem {other : List Issue}
    (same : ∀ child, child ∈ other ↔ child ∈ children) :
    siblingsAreStaged other = siblingsAreStaged children := by
  rw [Bool.eq_iff_iff, siblingsAreStaged_iff, siblingsAreStaged_iff]
  exact exists_congr fun child => and_congr_left fun _ => same child

theorem holds_mono {child : Issue} {own : Int} (below : own ≤ stage) (held : child.holds own = true) :
    child.holds stage = true := by
  obtain ⟨lowest, staged, least, isOpen⟩ := holds_iff.mp held
  exact holds_iff.mpr ⟨lowest, staged, least.trans below, isOpen⟩

theorem notify_of_free {prev issue : Issue} (notified : parentNotified parent = true)
    (staged : siblingsAreStaged children = true) (free : ¬Held children stage)
    (onWay : (Phase.committed prev issue).onWay parent stage) :
    (Phase.finished (notifyParentOfChildDone
      ⟨fun _ => some parent, fun _ => some (listChildIssues children)⟩ prev issue)).onWay parent stage := by
  obtain ⟨wasOpen, closed, linked, own, ownStage, below⟩ := onWay
  have stagedRead : siblingsAreStaged (listChildIssues children) = true :=
    (siblingsAreStaged_of_mem fun _ => mem_listChildIssues).trans staged
  have barrier : stageBarrierClosed (listChildIssues children) issue = true := by
    refine (stageBarrierClosed_staged stagedRead).mpr ⟨own, ownStage, fun child member => ?_⟩
    by_contra held
    exact free ⟨child, mem_listChildIssues.mp member, holds_mono below (Bool.of_not_eq_false held)⟩
  simp only [notifyParentOfChildDone, linked, wasOpen, closed, Bool.not_true, Bool.or_self,
    Bool.false_eq_true, if_false, notified, barrier]
  exact ⟨stagedRead, by simpa [postChildDoneComment, stagedRead, ownStage] using below⟩

theorem updateIssue_columns {request : Request} {prev row : Issue}
    (unique : (children.map Issue.id).Nodup) (member : row ∈ children) (own : row.id = request.child)
    (current : (Phase.loaded prev).current children request.child) :
    (updateIssue request prev row).stage = row.stage ∧
      (updateIssue request prev row).parentIssueId = row.parentIssueId ∧
        (isTerminalChildStatus row.status = false → isTerminalChildStatus prev.status = false) := by
  obtain ⟨read, listed, same, sameStage, sameParent, terminal⟩ := current
  obtain rfl : read = row := List.inj_on_of_nodup_map unique listed member (same.trans own.symm)
  refine ⟨sameStage.symm, sameParent.symm, fun isOpen => ?_⟩
  by_contra closed
  rw [terminal (Bool.of_not_eq_false closed)] at isOpen
  contradiction

structure Written (request : Request) (prev row : Issue) (children written : List Issue) : Prop where
  member : row ∈ children
  own : row.id = request.child
  rows : ∀ child, child ∈ written ↔ (child ∈ children ∧ child ≠ row) ∨ child = updateIssue request prev row
  ids : written.map Issue.id = children.map Issue.id

theorem written_updateWhere {request : Request} {prev row : Issue}
    (unique : (children.map Issue.id).Nodup)
    (found : children.find? (fun child => decide (child.id = request.child)) = some row) :
    Written request prev row children
      (TableLib.updateWhere (fun child => decide (child.id = request.child)) (updateIssue request prev)
        children) := by
  have member := List.mem_of_find?_eq_some found
  have own : row.id = request.child := by simpa using List.find?_some found
  refine ⟨member, own, fun child => TableLib.mem_updateWhere_one member fun other listed => ?_,
    ?_⟩
  · rw [decide_eq_true_eq]
    exact ⟨fun same => List.inj_on_of_nodup_map unique listed member (same.trans own.symm),
      fun same => same ▸ own⟩
  · have keeps : ∀ other, (updateIssue request prev other).id = other.id := fun _ => rfl
    exact TableLib.map_updateWhere keeps children

namespace Written

variable {request : Request} {prev row : Issue} {written : List Issue}

theorem linked (write : Written request prev row children written)
    (columns : (updateIssue request prev row).parentIssueId = row.parentIssueId)
    (before : ∀ child ∈ children, child.parentIssueId = some parent.id) :
    ∀ child ∈ written, child.parentIssueId = some parent.id := by
  intro child member
  rcases (write.rows child).mp member with ⟨listed, _⟩ | rfl
  · exact before child listed
  · exact columns.trans (before row write.member)

theorem staged (write : Written request prev row children written)
    (columns : (updateIssue request prev row).stage = row.stage)
    (before : siblingsAreStaged children = true) : siblingsAreStaged written = true := by
  obtain ⟨child, listed, own, staged⟩ := siblingsAreStaged_iff.mp before
  by_cases same : child = row
  · exact siblingsAreStaged_iff.mpr ⟨_, (write.rows _).mpr (.inr rfl), own, columns.trans (same ▸ staged)⟩
  · exact siblingsAreStaged_iff.mpr ⟨child, (write.rows child).mpr (.inl ⟨listed, same⟩), own, staged⟩

theorem current (write : Written request prev row children written)
    (columns : (updateIssue request prev row).stage = row.stage ∧
      (updateIssue request prev row).parentIssueId = row.parentIssueId)
    {phase : Phase} {child : Id} (before : phase.current children child) :
    phase.current written child := by
  cases phase with
  | loaded copy =>
      obtain ⟨read, listed, same, sameStage, sameParent, terminal⟩ := before
      by_cases changed : read = row
      · subst changed
        refine ⟨updateIssue request prev read, (write.rows _).mpr (.inr rfl), same, ?_, ?_, ?_⟩
        · exact columns.1.trans sameStage
        · exact columns.2.trans sameParent
        · exact fun _ => request.closes
      · exact ⟨read, (write.rows read).mpr (.inl ⟨listed, changed⟩), same, sameStage, sameParent, terminal⟩
  | waiting => trivial
  | committed _ _ => trivial
  | finished _ => trivial

theorem onWay (write : Written request prev row children written)
    (columns : (updateIssue request prev row).stage = row.stage ∧
      (updateIssue request prev row).parentIssueId = row.parentIssueId ∧
        (isTerminalChildStatus row.status = false → isTerminalChildStatus prev.status = false))
    (linked : ∀ child ∈ children, child.parentIssueId = some parent.id)
    (held : Held children stage) (free : ¬Held written stage) :
    (Phase.committed prev (updateIssue request prev row)).onWay parent stage := by
  obtain ⟨child, listed, holds⟩ := held
  have last : child = row := by
    by_contra other
    exact free ⟨child, (write.rows child).mpr (.inl ⟨listed, other⟩), holds⟩
  subst last
  obtain ⟨own, ownStage, below, isOpen⟩ := holds_iff.mp holds
  exact ⟨columns.2.2 isOpen, request.closes, columns.2.1.trans (linked child listed), own,
    columns.1.trans ownStage, below⟩

end Written

theorem mem_replaced {front back : List Update} {update other : Update} {holds : Update → Prop}
    (some : ∃ item ∈ front ++ update :: back, holds item) (moves : holds update → holds other) :
    ∃ item ∈ front ++ other :: back, holds item := by
  obtain ⟨item, member, held⟩ := some
  rcases List.mem_append.mp member with before | after
  · exact ⟨item, List.mem_append_left _ before, held⟩
  · rcases List.mem_cons.mp after with rfl | later
    · exact ⟨other, by simp, moves held⟩
    · exact ⟨item, by simp [later], held⟩

theorem watched_replaced {front back : List Update} {update : Update}
    (unique : (children.map Issue.id).Nodup)
    (linked : ∀ child ∈ children, child.parentIssueId = some parent.id)
    (staged : siblingsAreStaged children = true)
    (others : ∀ other ∈ front ++ back, other.phase.current children other.request.child)
    (own : update.phase.current children update.request.child)
    (noticed : Held children stage ∨ ∃ item ∈ front ++ update :: back, item.phase.onWay parent stage) :
    Watched parent stage ⟨parent, children, front ++ update :: back⟩ := by
  refine ⟨rfl, unique, linked, staged, fun item member => ?_, noticed⟩
  rcases List.mem_append.mp member with before | after
  · exact others item (List.mem_append_left _ before)
  · rcases List.mem_cons.mp after with rfl | later
    · exact own
    · exact others item (List.mem_append_right _ later)

theorem watched_step {state : State} (notified : parentNotified parent = true)
    (watched : Watched parent stage state) (index : Nat) : Watched parent stage (step state index) := by
  unfold step
  split
  · exact watched
  · rename_i update here
    obtain ⟨front, back, split, rfl⟩ := ListLib.split_at_index here
    obtain ⟨request, phase⟩ := update
    obtain ⟨sameParent, unique, linked, staged, current, noticed⟩ := watched
    rw [split] at current noticed
    have others : ∀ other ∈ front ++ back, other.phase.current state.children other.request.child := by
      intro other member
      refine current other ?_
      rcases List.mem_append.mp member with before | after
      · exact List.mem_append_left _ before
      · exact List.mem_append_right _ (List.mem_cons_of_mem _ after)
    have own : phase.current state.children request.child := current ⟨request, phase⟩ (by simp)
    simp only [split, sameParent, ListLib.set_split]
    cases phase with
    | waiting =>
        simp only [Update.next]
        split
        · exact watched_replaced unique linked staged others trivial
            (noticed.imp_right fun some => mem_replaced some False.elim)
        · rename_i prev found
          refine watched_replaced unique linked staged others ?_
            (noticed.imp_right fun some => mem_replaced some False.elim)
          exact ⟨prev, List.mem_of_find?_eq_some found, by simpa using List.find?_some found, rfl, rfl, id⟩
    | loaded prev =>
        simp only [Update.next]
        split
        · exact watched_replaced unique linked staged others trivial
            (noticed.imp_right fun some => mem_replaced some False.elim)
        · rename_i row found
          have write := @written_updateWhere _ request prev row unique found
          have columns := updateIssue_columns unique write.member write.own own
          refine watched_replaced (write.ids ▸ unique) (write.linked columns.2.1 linked)
            (write.staged columns.1 staged) ?_ trivial ?_
          · exact fun other member => write.current ⟨columns.1, columns.2.1⟩ (others other member)
          · rcases noticed with held | some
            · by_cases free : Held (TableLib.updateWhere (fun child => decide (child.id = request.child))
                  (updateIssue request prev) state.children) stage
              · exact .inl free
              · refine .inr ⟨_, List.mem_append_right _ List.mem_cons_self, ?_⟩
                exact write.onWay columns linked held free
            · exact .inr (mem_replaced some False.elim)
    | committed prev issue =>
        simp only [Update.next]
        by_cases held : Held state.children stage
        · split
          · exact watched_replaced unique linked staged others trivial (.inl held)
          · exact watched_replaced unique linked staged others trivial (.inl held)
        · have some := noticed.resolve_left held
          split
          · rename_i unchanged
            refine watched_replaced unique linked staged others trivial (.inr (mem_replaced some ?_))
            rintro ⟨wasOpen, closed, _⟩
            rw [unchanged, closed] at wasOpen
            contradiction
          · refine watched_replaced unique linked staged others trivial (.inr (mem_replaced some ?_))
            exact notify_of_free notified staged held
    | finished notice =>
        exact watched_replaced unique linked staged others trivial
          (noticed.imp_right fun some => mem_replaced some id)

theorem closure_noticed {family : Family} (notified : parentNotified family.parent = true)
    {requests : List Request} {schedule : List Nat} {final : State}
    (reached : final = RunLib.run step (start family requests) schedule) {stage : Int}
    (held : Held family.children stage)
    (finished : ∀ update ∈ final.updates, ∃ notice, update.phase = .finished notice)
    (free : ¬Held final.children stage) :
    ∃ update ∈ final.updates, ∃ notice, update.phase = .finished (some notice) ∧
      notice.staged = true ∧ notice.closedStage ≤ stage := by
  have initial : Watched family.parent stage (start family requests) := by
    refine ⟨rfl, family.unique, family.linked, ?_, ?_, .inl held⟩
    · obtain ⟨child, member, holds⟩ := held
      obtain ⟨own, staged, _⟩ := holds_iff.mp holds
      exact siblingsAreStaged_iff.mpr ⟨child, member, own, staged⟩
    · intro update member
      obtain ⟨request, _, rfl⟩ := List.mem_map.mp member
      trivial
  have watched : Watched family.parent stage final := by
    rw [reached]
    exact RunLib.run_invariant initial (fun _ index watched => watched_step notified watched index) schedule
  obtain ⟨update, member, onWay⟩ := watched.noticed.resolve_left free
  obtain ⟨notice, phase⟩ := finished update member
  rw [phase] at onWay
  cases notice with
  | none => exact onWay.elim
  | some notice => exact ⟨update, member, notice, phase, onWay⟩

def StageClosed (stage : Int) (children : List Issue) : Prop :=
  ∀ child ∈ children, ∀ own, child.stage = some own → own ≤ stage → isTerminalChildStatus child.status = true

theorem stageClosed_iff : StageClosed stage children ↔ ¬Held children stage := by
  constructor
  · rintro closed ⟨child, member, held⟩
    obtain ⟨own, staged, below, isOpen⟩ := holds_iff.mp held
    rw [closed child member own staged below] at isOpen
    contradiction
  · intro free child member own staged below
    by_contra isOpen
    exact free ⟨child, member, holds_iff.mpr ⟨own, staged, below, Bool.of_not_eq_true isOpen⟩⟩

/-- A barrier closes just when the lowest open stage rises, or with the last of an unstaged set; of
any interleaved updates one sees the closure of the stages up to a given one; and a batch announces
the same in any order. -/
theorem stage_closure_noticed :
    (∀ (children : List Issue) (child : Issue) (status : IssueTable.Status),
      (children.map Issue.id).Nodup → child ∈ children → isTerminalChildStatus child.status = false →
        isTerminalChildStatus status = true →
          let after := completeChild child.id status children
          let completed := { child with status := status }
          (siblingsAreStaged children = true →
            (stageBarrierClosed after completed = true ↔ lowestOpenStage children < lowestOpenStage after)) ∧
          (siblingsAreStaged children = false →
            (stageBarrierClosed after completed = true ↔
              ∀ sibling ∈ after, isTerminalChildStatus sibling.status = true))) ∧
    (∀ (family : Family) (requests : List Request) (schedule : List Nat) (final : State) (stage : Int),
      parentNotified family.parent = true → final = RunLib.run step (start family requests) schedule →
        (∀ update ∈ final.updates, ∃ notice, update.phase = .finished notice) →
          ¬StageClosed stage family.children → StageClosed stage final.children →
            ∃ update ∈ final.updates, ∃ notice, update.phase = .finished (some notice) ∧
              notice.staged = true ∧ notice.closedStage ≤ stage) ∧
    (∀ (queries : Queries) (completed other : List Issue), completed.Perm other →
      ∀ announcement : Announcement,
        announcement ∈ (notifyParentsOfBatchChildDone queries completed).map Notice.announced ↔
          announcement ∈ (notifyParentsOfBatchChildDone queries other).map Notice.announced) := by
  refine ⟨?_, ?_, ?_⟩
  · intro children child status unique member wasOpen _
    refine ⟨stageBarrierClosed_iff_raises unique member wasOpen, fun unstaged => ?_⟩
    exact stageBarrierClosed_unstaged ((siblingsAreStaged_completeChild child.id status).trans unstaged)
  · intro family requests schedule final stage notified reached finished wasOpen closed
    rw [stageClosed_iff, not_not] at wasOpen
    exact closure_noticed notified reached wasOpen finished (stageClosed_iff.mp closed)
  · intro queries completed other reordered announcement
    exact notices_perm queries reordered announcement

/-! Two children of two stages, the later stage written first and read last. -/

def sampleChild (id : Id) (stage : Int) : Issue := ⟨id, id, "child", .inProgress, some stage, some 1, none⟩

def sampleFamily : Family where
  parent := ⟨1, 1, "parent", .inProgress, none, none, some .agent⟩
  children := [sampleChild 2 1, sampleChild 3 2]
  unique := by decide
  linked := by decide

def sampleRequests : List Request := [⟨2, .done, rfl⟩, ⟨3, .cancelled, rfl⟩]

def sampleEnd : State := RunLib.run step (start sampleFamily sampleRequests) [1, 0, 1, 0, 0, 1]

theorem stage_closure_noticed_sample : ∃ update ∈ sampleEnd.updates, ∃ notice,
    update.phase = .finished (some notice) ∧ notice.staged = true ∧ notice.closedStage ≤ 1 := by
  have finished : ∀ update ∈ sampleEnd.updates, ∃ notice, update.phase = .finished notice := by
    intro update member
    rcases List.mem_pair.mp member with rfl | rfl <;> exact ⟨_, rfl⟩
  have wasOpen : ¬StageClosed 1 sampleFamily.children := fun closed =>
    absurd (closed (sampleChild 2 1) (by decide) 1 rfl le_rfl) (by decide)
  have closed : StageClosed 1 sampleEnd.children := by
    intro child member own _ _
    have every : ∀ child ∈ sampleEnd.children, isTerminalChildStatus child.status = true := by
      decide +kernel
    exact every child member
  exact stage_closure_noticed.2.1 sampleFamily sampleRequests [1, 0, 1, 0, 0, 1] sampleEnd 1 (by decide) rfl
    finished wasOpen closed

end MulticaOS.ChildDone
