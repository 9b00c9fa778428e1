import MulticaOS.ChildDone.Barriers

/-!
The notices to parents: one for a single child whose completion closes a barrier, and for a batch
at most one for each parent, whatever the order of the batch.
-/

namespace MulticaOS.ChildDone

structure Notice where
  parentId : Id
  completed : Issue
  staged : Bool
  closedStage : Int
  batch : Bool
  summary : String
  nextStage : Int
  deriving DecidableEq

def postChildDoneComment (parent completed : Issue) (children : List Issue) (staged : Bool)
    (closedStage : Int) (batch : Bool) : Notice :=
  let (summary, nextStage) := if staged then stageProgressSummary children closedStage else ("", 0)
  ⟨parent.id, completed, staged, closedStage, batch, summary, nextStage⟩

def parentNotified (parent : Issue) : Bool :=
  parent.status ≠ .done && parent.status ≠ .cancelled && parent.status ≠ .backlog &&
    parent.assigneeType ≠ some .member

structure Queries where
  getIssue : Id → Option Issue
  listChildIssues : Id → Option (List Issue)

def notifyParentOfChildDone (queries : Queries) (prev issue : Issue) : Option Notice :=
  match issue.parentIssueId with
  | none => none
  | some parentId =>
      if isTerminalChildStatus prev.status || !isTerminalChildStatus issue.status then none
      else
        match queries.getIssue parentId with
        | none => none
        | some parent =>
            if !parentNotified parent then none
            else
              match queries.listChildIssues parent.id with
              | none => none
              | some children =>
                  if !stageBarrierClosed children issue then none
                  else
                    let staged := siblingsAreStaged children
                    let closedStage := if staged then issue.stage.getD 0 else 0
                    some (postChildDoneComment parent issue children staged closedStage false)

structure ParentGroup where
  parentId : Id
  children : List Issue

def ParentGroup.add (child : Issue) (group : ParentGroup) : ParentGroup :=
  { group with children := group.children ++ [child] }

def groupChild (groups : List ParentGroup) (child : Issue) : List ParentGroup :=
  match child.parentIssueId with
  | none => groups
  | some parentId =>
      if groups.any fun group => group.parentId = parentId then
        TableLib.updateWhere (fun group => group.parentId = parentId) (ParentGroup.add child) groups
      else groups ++ [ParentGroup.add child ⟨parentId, []⟩]

def groupByParent (completed : List Issue) : List ParentGroup := completed.foldl groupChild []

def betterStage (children : List Issue) (best : Option (Int × Issue)) (child : Issue) :
    Option (Int × Issue) :=
  match child.stage with
  | none => best
  | some stage =>
      if !stageBarrierClosed children child then best
      else
        match best with
        | none => some (stage, child)
        | some (bestStage, _) => if bestStage < stage then some (stage, child) else best

def noticeGroup (queries : Queries) (group : ParentGroup) : Option Notice :=
  match queries.getIssue group.parentId with
  | none => none
  | some parent =>
      if !parentNotified parent then none
      else
        match queries.listChildIssues parent.id with
        | none => none
        | some children =>
            let batch := decide (1 < group.children.length)
            if !siblingsAreStaged children then
              match group.children with
              | [] => none
              | first :: _ =>
                  if !stageBarrierClosed children first then none
                  else some (postChildDoneComment parent first children false 0 batch)
            else
              match group.children.foldl (betterStage children) none with
              | none => none
              | some (bestStage, child) =>
                  some (postChildDoneComment parent child children true bestStage batch)

def notifyParentsOfBatchChildDone (queries : Queries) (completed : List Issue) : List Notice :=
  (groupByParent completed).filterMap (noticeGroup queries)

def childrenOf (parentId : Id) (completed : List Issue) : List Issue :=
  completed.filter fun child => child.parentIssueId = some parentId

theorem childrenOf_append_own {parentId : Id} {completed : List Issue} {child : Issue}
    (own : child.parentIssueId = some parentId) :
    childrenOf parentId (completed ++ [child]) = childrenOf parentId completed ++ [child] := by
  simp [childrenOf, own]

theorem childrenOf_append_other {parentId : Id} {completed : List Issue} {child : Issue}
    (other : child.parentIssueId ≠ some parentId) :
    childrenOf parentId (completed ++ [child]) = childrenOf parentId completed := by
  simp [childrenOf, other]

def Grouped (completed : List Issue) (groups : List ParentGroup) : Prop :=
  ∀ group, group ∈ groups ↔ group.children ≠ [] ∧ group.children = childrenOf group.parentId completed

theorem grouped_groupChild {completed : List Issue} {groups : List ParentGroup} {child : Issue}
    (grouped : Grouped completed groups) : Grouped (completed ++ [child]) (groupChild groups child) := by
  intro group
  rw [groupChild]
  split
  · rename_i unlinked
    rw [childrenOf_append_other (by simp [unlinked])]
    exact grouped group
  · rename_i parentId linked
    split
    · rename_i seen
      rw [List.any_eq_true] at seen
      obtain ⟨own, ownListed, ownParent⟩ := seen
      rw [decide_eq_true_eq] at ownParent
      constructor
      · intro member
        rcases TableLib.mem_updateWhere member with ⟨listed, other⟩ | ⟨old, listed, same, rfl⟩
        · have apart : child.parentIssueId ≠ some group.parentId := by
            intro equal
            rw [linked, Option.some.injEq] at equal
            simp [equal] at other
          rw [childrenOf_append_other apart]
          exact (grouped group).mp listed
        · have parent : old.parentId = parentId := by simpa using same
          have children := ((grouped old).mp listed).2
          refine ⟨by simp [ParentGroup.add], ?_⟩
          rw [ParentGroup.add, childrenOf_append_own (by rw [linked, parent]), children]
      · rintro ⟨nonempty, children⟩
        refine List.mem_map.mpr ?_
        by_cases parent : group.parentId = parentId
        · refine ⟨own, ownListed, ?_⟩
          rw [childrenOf_append_own (by rw [linked, parent])] at children
          rw [if_pos (decide_eq_true ownParent), ParentGroup.add, ((grouped own).mp ownListed).2, ownParent,
            ← parent, ← children]
        · have apart : child.parentIssueId ≠ some group.parentId := by
            rw [linked]
            exact fun equal => parent (Option.some.inj equal).symm
          rw [childrenOf_append_other apart] at children
          exact ⟨group, (grouped group).mpr ⟨nonempty, children⟩, by simp [parent]⟩
    · rename_i unseen
      have empty : childrenOf parentId completed = [] := by
        by_contra nonempty
        have listed := (grouped ⟨parentId, childrenOf parentId completed⟩).mpr ⟨nonempty, rfl⟩
        exact unseen (List.any_eq_true.mpr ⟨_, listed, by simp⟩)
      rw [List.mem_append, List.mem_singleton, grouped group]
      by_cases parent : group.parentId = parentId
      · rw [childrenOf_append_own (by rw [linked, parent]), parent, empty]
        constructor
        · rintro (⟨nonempty, none⟩ | rfl)
          · exact absurd none nonempty
          · exact ⟨by simp [ParentGroup.add], rfl⟩
        · rintro ⟨_, children⟩
          obtain ⟨_, _⟩ := group
          simp only at parent children
          subst parent children
          exact .inr rfl
      · rw [childrenOf_append_other (by rw [linked]; exact fun equal => parent (Option.some.inj equal).symm)]
        constructor
        · rintro (listed | rfl)
          · exact listed
          · exact absurd rfl parent
        · exact .inl

theorem grouped_groupByParent (completed : List Issue) : Grouped completed (groupByParent completed) := by
  induction completed using List.reverseRecOn with
  | nil =>
      intro group
      simp [groupByParent, childrenOf]
  | append_singleton completed child ih =>
      rw [groupByParent, List.foldl_append, List.foldl_cons, List.foldl_nil]
      exact grouped_groupChild ih

theorem groups_of_perm {completed other : List Issue} (reordered : completed.Perm other)
    {group : ParentGroup} (listed : group ∈ groupByParent completed) :
    ∃ twin ∈ groupByParent other, twin.parentId = group.parentId ∧ group.children.Perm twin.children := by
  obtain ⟨nonempty, children⟩ := (grouped_groupByParent completed group).mp listed
  have same : group.children.Perm (childrenOf group.parentId other) := by
    rw [children]
    exact reordered.filter _
  refine ⟨⟨group.parentId, childrenOf group.parentId other⟩, ?_, rfl, same⟩
  refine (grouped_groupByParent other _).mpr ⟨fun empty => nonempty ?_, rfl⟩
  exact List.perm_nil.mp (empty ▸ same)

def closedStages (children completed : List Issue) : List Int :=
  completed.filterMap fun child => if stageBarrierClosed children child then child.stage else none

theorem foldl_betterStage (children completed : List Issue) :
    ((completed.foldl (betterStage children) none).map Prod.fst : WithBot Int) =
      (closedStages children completed).maximum := by
  induction completed using List.reverseRecOn with
  | nil => rfl
  | append_singleton completed child ih =>
      rw [List.foldl_append, List.foldl_cons, List.foldl_nil, closedStages, List.filterMap_append,
        ← closedStages]
      generalize completed.foldl (betterStage children) none = best at ih ⊢
      cases own : child.stage with
      | none => simpa [betterStage, own] using ih
      | some stage =>
          by_cases closed : stageBarrierClosed children child = true
          · simp only [betterStage, own, closed, Bool.not_true, Bool.false_eq_true, if_false,
              List.filterMap_cons, if_true, List.filterMap_nil]
            rw [List.maximum_concat, ← ih]
            cases best with
            | none => rfl
            | some pair =>
                obtain ⟨bestStage, representative⟩ := pair
                simp only
                split
                · rename_i better
                  exact (max_eq_right (WithBot.coe_le_coe.mpr better.le)).symm
                · rename_i notBetter
                  exact (max_eq_left (WithBot.coe_le_coe.mpr (not_lt.mp notBetter))).symm
          · simpa [betterStage, own, closed] using ih

theorem closedStages_perm (children : List Issue) {completed other : List Issue}
    (reordered : completed.Perm other) :
    (closedStages children completed).maximum = (closedStages children other).maximum := by
  have same : (closedStages children completed).Perm (closedStages children other) := reordered.filterMap _
  exact le_antisymm (List.maximum_mono same.subset) (List.maximum_mono same.symm.subset)

structure Announcement where
  parentId : Id
  staged : Bool
  closedStage : Int
  batch : Bool
  summary : String
  nextStage : Int
  deriving DecidableEq

def Notice.announced (notice : Notice) : Announcement :=
  ⟨notice.parentId, notice.staged, notice.closedStage, notice.batch, notice.summary, notice.nextStage⟩

theorem stageBarrierClosed_unstaged_any {children : List Issue}
    (unstaged : siblingsAreStaged children = false) (left right : Issue) :
    stageBarrierClosed children left = stageBarrierClosed children right := by
  simp [stageBarrierClosed, unstaged]

theorem noticeGroup_perm (queries : Queries) {group twin : ParentGroup}
    (sameParent : twin.parentId = group.parentId) (reordered : group.children.Perm twin.children) :
    (noticeGroup queries group).map Notice.announced = (noticeGroup queries twin).map Notice.announced := by
  simp only [noticeGroup, sameParent, reordered.length_eq]
  cases queries.getIssue group.parentId with
  | none => rfl
  | some parent =>
      simp only
      split
      · rfl
      · cases queries.listChildIssues parent.id with
        | none => rfl
        | some children =>
            simp only
            split
            · rename_i unstaged
              rw [Bool.not_eq_true'] at unstaged
              cases first : group.children with
              | nil =>
                  rw [first] at reordered
                  rw [List.nil_perm.mp reordered]
              | cons left leftRest =>
                  cases second : twin.children with
                  | nil =>
                      rw [first, second] at reordered
                      exact absurd (List.perm_nil.mp reordered) (by simp)
                  | cons right rightRest =>
                      simp only
                      rw [stageBarrierClosed_unstaged_any unstaged left right]
                      split <;> rfl
            · have best : ((group.children.foldl (betterStage children) none).map Prod.fst : WithBot Int) =
                  (twin.children.foldl (betterStage children) none).map Prod.fst := by
                rw [foldl_betterStage, foldl_betterStage, closedStages_perm children reordered]
              cases left : group.children.foldl (betterStage children) none with
              | none =>
                  cases right : twin.children.foldl (betterStage children) none with
                  | none => rfl
                  | some pair => simp [left, right] at best
              | some pair =>
                  cases right : twin.children.foldl (betterStage children) none with
                  | none => simp [left, right] at best
                  | some other =>
                      have stages : pair.1 = other.1 := by simpa [left, right] using best
                      simp only [Option.map_some, stages]
                      rfl

theorem notices_subset (queries : Queries) {completed other : List Issue} (reordered : completed.Perm other)
    {announcement : Announcement}
    (announced : announcement ∈ (notifyParentsOfBatchChildDone queries completed).map Notice.announced) :
    announcement ∈ (notifyParentsOfBatchChildDone queries other).map Notice.announced := by
  obtain ⟨notice, posted, rfl⟩ := List.mem_map.mp announced
  obtain ⟨group, listed, notified⟩ := List.mem_filterMap.mp posted
  obtain ⟨twin, twinListed, sameParent, sameChildren⟩ := groups_of_perm reordered listed
  have same := noticeGroup_perm queries sameParent sameChildren
  rw [notified, Option.map_some] at same
  obtain ⟨twinNotice, twinNotified, equal⟩ := Option.map_eq_some_iff.mp same.symm
  exact List.mem_map.mpr ⟨twinNotice, List.mem_filterMap.mpr ⟨twin, twinListed, twinNotified⟩, equal⟩

theorem notices_perm (queries : Queries) {completed other : List Issue} (reordered : completed.Perm other)
    (announcement : Announcement) :
    announcement ∈ (notifyParentsOfBatchChildDone queries completed).map Notice.announced ↔
      announcement ∈ (notifyParentsOfBatchChildDone queries other).map Notice.announced :=
  ⟨notices_subset queries reordered, notices_subset queries reordered.symm⟩

def closedParent (queries : Queries) (child : Issue) : Option Id :=
  child.parentIssueId.bind fun parentId =>
    (queries.getIssue parentId).bind fun parent =>
      (queries.listChildIssues parent.id).bind fun children =>
        if parentNotified parent && stageBarrierClosed children child then some parent.id else none

theorem closedParent_eq_some {queries : Queries} {child : Issue} {id : Id} :
    closedParent queries child = some id ↔ ∃ parentId parent children, child.parentIssueId = some parentId ∧
      queries.getIssue parentId = some parent ∧ queries.listChildIssues parent.id = some children ∧
        parentNotified parent = true ∧ stageBarrierClosed children child = true ∧ parent.id = id := by
  simp only [closedParent, Option.bind_eq_some_iff, Bool.and_eq_true, Option.ite_none_right_eq_some,
    Option.some.injEq, and_assoc, exists_and_left]

theorem best_isNone_iff {children completed : List Issue}
    (staged : siblingsAreStaged children = true) :
    completed.foldl (betterStage children) none = none ↔
      ∀ child ∈ completed, stageBarrierClosed children child = false := by
  have best := foldl_betterStage children completed
  have empty : completed.foldl (betterStage children) none = none ↔ closedStages children completed = [] := by
    constructor
    · intro none
      rw [none, Option.map_none] at best
      exact List.maximum_eq_bot.mp best.symm
    · intro nil
      rw [nil, List.maximum_nil] at best
      exact Option.map_eq_none_iff.mp best
  rw [empty, closedStages, List.filterMap_eq_nil_iff]
  refine forall₂_congr fun child _ => ?_
  cases closed : stageBarrierClosed children child with
  | false => simp
  | true =>
      obtain ⟨stage, own, -⟩ := (stageBarrierClosed_staged staged).mp closed
      simp [own]

theorem barrier_noticed {parent : Issue} {children : List Issue} {group : ParentGroup}
    (nonempty : group.children ≠ []) (id : Id) :
    (∃ notice, (if (!siblingsAreStaged children) = true then
          match group.children with
          | [] => none
          | first :: _ =>
              if (!stageBarrierClosed children first) = true then none
              else some (postChildDoneComment parent first children false 0
                (decide (1 < group.children.length)))
        else
          match group.children.foldl (betterStage children) none with
          | none => none
          | some (bestStage, child) =>
              some (postChildDoneComment parent child children true bestStage
                (decide (1 < group.children.length)))) = some notice ∧ notice.parentId = id) ↔
      ∃ child ∈ group.children, stageBarrierClosed children child = true ∧ parent.id = id := by
  cases staged : siblingsAreStaged children with
  | false =>
      simp only [Bool.not_false, if_true]
      cases first : group.children with
      | nil => exact absurd first nonempty
      | cons child rest =>
          dsimp only
          have same := stageBarrierClosed_unstaged_any staged
          cases closed : stageBarrierClosed children child with
          | false =>
              refine iff_of_false (by simp) ?_
              rintro ⟨other, -, otherClosed, -⟩
              rw [same other child, closed] at otherClosed
              contradiction
          | true =>
              constructor
              · rintro ⟨notice, posted, own⟩
                cases posted
                exact ⟨child, by simp, closed, own⟩
              · rintro ⟨-, -, -, own⟩
                exact ⟨_, rfl, own⟩
  | true =>
      simp only [Bool.not_true, Bool.false_eq_true, if_false]
      cases best : group.children.foldl (betterStage children) none with
      | none =>
          refine iff_of_false (by simp) ?_
          rintro ⟨child, member, closed, -⟩
          rw [(best_isNone_iff staged).mp best child member] at closed
          contradiction
      | some pair =>
          have closes : ∃ child ∈ group.children, stageBarrierClosed children child = true := by
            by_contra none
            push Not at none
            rw [(best_isNone_iff staged).mpr fun child member => Bool.of_not_eq_true (none child member)] at best
            contradiction
          obtain ⟨child, member, closed⟩ := closes
          constructor
          · rintro ⟨notice, posted, own⟩
            cases posted
            exact ⟨child, member, closed, own⟩
          · rintro ⟨-, -, -, own⟩
            exact ⟨_, rfl, own⟩

theorem noticeGroup_parent_iff {queries : Queries} {group : ParentGroup} (nonempty : group.children ≠ [])
    (own : ∀ child ∈ group.children, child.parentIssueId = some group.parentId) (id : Id) :
    (∃ notice, noticeGroup queries group = some notice ∧ notice.parentId = id) ↔
      ∃ child ∈ group.children, closedParent queries child = some id := by
  rw [noticeGroup]
  cases loaded : queries.getIssue group.parentId with
  | none =>
      refine iff_of_false (by simp) ?_
      rintro ⟨child, member, closes⟩
      simp [closedParent, own child member, loaded] at closes
  | some parent =>
      dsimp only
      cases notified : parentNotified parent with
      | false =>
          refine iff_of_false (by simp) ?_
          rintro ⟨child, member, closes⟩
          obtain ⟨parentId, other, children, linked, read, -, told, -⟩ := closedParent_eq_some.mp closes
          obtain rfl : group.parentId = parentId := Option.some.inj ((own child member).symm.trans linked)
          obtain rfl : parent = other := Option.some.inj (loaded.symm.trans read)
          rw [notified] at told
          contradiction
      | true =>
          simp only [Bool.not_true, Bool.false_eq_true, if_false]
          cases siblings : queries.listChildIssues parent.id with
          | none =>
              refine iff_of_false (by simp) ?_
              rintro ⟨child, member, closes⟩
              simp [closedParent, own child member, loaded, siblings] at closes
          | some children =>
              have closes : ∀ child ∈ group.children, (closedParent queries child = some id ↔
                  stageBarrierClosed children child = true ∧ parent.id = id) := by
                intro child member
                simp [closedParent, own child member, loaded, siblings, notified]
              rw [exists_congr fun child => and_congr_right (closes child)]
              exact barrier_noticed nonempty id

theorem notified_parents_iff (queries : Queries) (completed : List Issue) (id : Id) :
    (∃ notice ∈ notifyParentsOfBatchChildDone queries completed, notice.parentId = id) ↔
      ∃ child ∈ completed, closedParent queries child = some id := by
  simp only [notifyParentsOfBatchChildDone, List.mem_filterMap]
  have grouped := grouped_groupByParent completed
  have mine : ∀ group ∈ groupByParent completed, ∀ child, child ∈ group.children ↔
      child ∈ completed ∧ child.parentIssueId = some group.parentId := by
    intro group listed child
    rw [((grouped group).mp listed).2, childrenOf, List.mem_filter, decide_eq_true_eq]
  constructor
  · rintro ⟨notice, ⟨group, listed, posted⟩, same⟩
    have own : ∀ child ∈ group.children, child.parentIssueId = some group.parentId := fun child member =>
      ((mine group listed child).mp member).2
    obtain ⟨child, member, closes⟩ :=
      (noticeGroup_parent_iff ((grouped group).mp listed).1 own id).mp ⟨notice, posted, same⟩
    exact ⟨child, ((mine group listed child).mp member).1, closes⟩
  · rintro ⟨child, member, closes⟩
    obtain ⟨parentId, parent, children, linked, -⟩ := closedParent_eq_some.mp closes
    have inGroup : child ∈ childrenOf parentId completed :=
      List.mem_filter.mpr ⟨member, decide_eq_true linked⟩
    have listed : ⟨parentId, childrenOf parentId completed⟩ ∈ groupByParent completed :=
      (grouped _).mpr ⟨List.ne_nil_of_mem inGroup, rfl⟩
    have own : ∀ child ∈ childrenOf parentId completed, child.parentIssueId = some parentId :=
      fun child member => by simpa using (List.mem_filter.mp member).2
    have posted := @noticeGroup_parent_iff queries ⟨parentId, childrenOf parentId completed⟩
      (List.ne_nil_of_mem inGroup) own id
    obtain ⟨notice, noticed, same⟩ := posted.mpr ⟨child, inGroup, closes⟩
    exact ⟨notice, ⟨_, listed, noticed⟩, same⟩

theorem notified_parent_iff (queries : Queries) (prev issue : Issue) (id : Id) :
    (∃ notice ∈ (notifyParentOfChildDone queries prev issue).toList, notice.parentId = id) ↔
      isTerminalChildStatus prev.status = false ∧ isTerminalChildStatus issue.status = true ∧
        closedParent queries issue = some id := by
  simp only [Option.mem_toList, notifyParentOfChildDone, closedParent]
  cases issue.parentIssueId with
  | none => simp
  | some parentId =>
      cases isTerminalChildStatus prev.status with
      | true => simp
      | false =>
          cases isTerminalChildStatus issue.status with
          | false => simp
          | true =>
              simp only [Bool.not_true, Bool.or_self, Bool.false_eq_true, if_false, Option.bind_some, true_and]
              cases queries.getIssue parentId with
              | none => simp
              | some parent =>
                  cases notified : parentNotified parent with
                  | false => cases queries.listChildIssues parent.id <;> simp [notified]
                  | true =>
                      cases siblings : queries.listChildIssues parent.id with
                      | none => simp [notified, siblings]
                      | some children =>
                          cases closed : stageBarrierClosed children issue <;>
                            simp [notified, siblings, closed, postChildDoneComment]

end MulticaOS.ChildDone
