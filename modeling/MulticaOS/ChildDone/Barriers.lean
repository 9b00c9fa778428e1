import MulticaOS.IssueTable.Tables
import MulticaOS.Lib.Tables

/-!
Stage barriers of sub-issues: when the completion of a child closes its stage, and what the
notice to the parent says about the stages.
-/

namespace MulticaOS.ChildDone

abbrev Id := Nat

inductive AssigneeType where
  | member
  | agent
  | squad
  deriving DecidableEq

structure Issue where
  id : Id
  number : Nat
  title : String
  status : IssueTable.Status
  stage : Option Int
  parentIssueId : Option Id
  assigneeType : Option AssigneeType
  deriving DecidableEq

def isTerminalChildStatus (status : IssueTable.Status) : Bool :=
  status = .done || status = .cancelled

def siblingsAreStaged (children : List Issue) : Bool := children.any fun child => child.stage.isSome

def Issue.holds (child : Issue) (stage : Int) : Bool :=
  match child.stage with
  | none => false
  | some own => own ≤ stage && !isTerminalChildStatus child.status

def stageBarrierClosed (children : List Issue) (completed : Issue) : Bool :=
  if !siblingsAreStaged children then
    children.all fun child => isTerminalChildStatus child.status
  else
    match completed.stage with
    | none => false
    | some stage => children.all fun child => !child.holds stage

structure StageCount where
  stage : Int
  total : Nat
  done : Nat
  deriving DecidableEq

def StageCount.add (child : Issue) (count : StageCount) : StageCount :=
  { count with
    total := count.total + 1
    done := if isTerminalChildStatus child.status then count.done + 1 else count.done }

/-- One pass of the loop over the children; the counts stand in the order `order` of first sight. -/
def countChild (counts : List StageCount) (child : Issue) : List StageCount :=
  match child.stage with
  | none => counts
  | some stage =>
      if counts.any fun count => count.stage = stage then
        TableLib.updateWhere (fun count => count.stage = stage) (StageCount.add child) counts
      else counts ++ [StageCount.add child ⟨stage, 0, 0⟩]

def stageCounts (children : List Issue) : List StageCount :=
  (children.foldl countChild []).insertionSort fun left right => left.stage ≤ right.stage

/-- One pass of the loop over the counts: the parts so far and `nextStage`, 0 while there is none. -/
def summarizeStage (closedStage : Int) (sofar : List String × Int) (count : StageCount) :
    List String × Int :=
  let label := s!"Stage {count.stage}: {count.done}/{count.total} done"
  if sofar.2 = 0 ∧ closedStage < count.stage ∧ count.done < count.total then
    (sofar.1 ++ [label ++ " (next)"], count.stage)
  else (sofar.1 ++ [label], sofar.2)

def stageProgressSummary (children : List Issue) (closedStage : Int) : String × Int :=
  let (parts, nextStage) := (stageCounts children).foldl (summarizeStage closedStage) ([], 0)
  ("; ".intercalate parts, nextStage)

example : stageProgressSummary
    [⟨1, 1, "a", .done, some 1, none, none⟩, ⟨2, 2, "b", .backlog, none, none, none⟩,
      ⟨3, 3, "c", .cancelled, some 1, none, none⟩, ⟨4, 4, "d", .backlog, some 2, none, none⟩] 1 =
    ("Stage 1: 2/2 done; Stage 2: 0/1 done (next)", 2) := by decide +kernel

variable {children : List Issue} {completed : Issue}

theorem siblingsAreStaged_iff :
    siblingsAreStaged children = true ↔ ∃ child ∈ children, ∃ stage, child.stage = some stage := by
  simp [siblingsAreStaged, Option.isSome_iff_exists]

theorem holds_iff {child : Issue} {stage : Int} : child.holds stage = true ↔
    ∃ own, child.stage = some own ∧ own ≤ stage ∧ isTerminalChildStatus child.status = false := by
  rw [Issue.holds]
  split
  · rename_i unstaged
    simp [unstaged]
  · rename_i own staged
    simp [staged]

theorem stageBarrierClosed_unstaged (unstaged : siblingsAreStaged children = false) :
    stageBarrierClosed children completed = true ↔
      ∀ child ∈ children, isTerminalChildStatus child.status = true := by
  simp [stageBarrierClosed, unstaged]

theorem stageBarrierClosed_staged (staged : siblingsAreStaged children = true) :
    stageBarrierClosed children completed = true ↔ ∃ stage, completed.stage = some stage ∧
      ∀ child ∈ children, child.holds stage = false := by
  simp only [stageBarrierClosed, staged, Bool.not_true, Bool.false_eq_true, if_false]
  split
  · rename_i none
    simp [none]
  · rename_i stage own
    simp [own]

def openStages (children : List Issue) : List Int :=
  (children.filter fun child => !isTerminalChildStatus child.status).filterMap Issue.stage

def lowestOpenStage (children : List Issue) : WithTop Int :=
  @List.minimum Int Int.instLinearOrder.toPreorder inferInstance (openStages children)

def completeChild (id : Id) (status : IssueTable.Status) (children : List Issue) : List Issue :=
  TableLib.updateWhere (fun child => child.id = id) (fun child => { child with status := status }) children

theorem mem_openStages {stage : Int} : stage ∈ openStages children ↔
    ∃ child ∈ children, isTerminalChildStatus child.status = false ∧ child.stage = some stage := by
  simp [openStages, and_assoc]

theorem lt_lowestOpenStage_iff {stage : Int} : (stage : WithTop Int) < lowestOpenStage children ↔
    ∀ child ∈ children, child.holds stage = false := by
  constructor
  · intro above child member
    by_contra held
    obtain ⟨own, staged, below, isOpen⟩ := holds_iff.mp (Bool.of_not_eq_false held)
    have least : lowestOpenStage children ≤ own :=
      List.minimum_le_of_mem' (mem_openStages.mpr ⟨child, member, isOpen, staged⟩)
    exact absurd (above.trans_le least) (not_lt.mpr (WithTop.coe_le_coe.mpr below))
  · intro free
    by_contra notAbove
    obtain ⟨own, member, below⟩ := List.minimum_le_coe_iff.mp (not_lt.mp notAbove)
    obtain ⟨child, listed, isOpen, staged⟩ := mem_openStages.mp member
    have held : child.holds stage = true := holds_iff.mpr ⟨own, staged, below, isOpen⟩
    rw [free child listed] at held
    contradiction

theorem mem_completeChild {child sibling : Issue} {status : IssueTable.Status}
    (unique : (children.map Issue.id).Nodup) (member : child ∈ children) :
    sibling ∈ completeChild child.id status children ↔
      (sibling ∈ children ∧ sibling ≠ child) ∨ sibling = { child with status := status } := by
  refine TableLib.mem_updateWhere_one member fun row listed => ?_
  rw [decide_eq_true_eq]
  exact ⟨fun same => List.inj_on_of_nodup_map unique listed member same, fun same => same ▸ rfl⟩

theorem siblingsAreStaged_completeChild (id : Id) (status : IssueTable.Status) :
    siblingsAreStaged (completeChild id status children) = siblingsAreStaged children := by
  rw [siblingsAreStaged, siblingsAreStaged, completeChild, TableLib.updateWhere, List.any_map]
  congr 1
  funext child
  simp only [Function.comp]
  split <;> rfl

theorem stageBarrierClosed_iff_raises {child : Issue} {status : IssueTable.Status}
    (unique : (children.map Issue.id).Nodup) (member : child ∈ children)
    (wasOpen : isTerminalChildStatus child.status = false)
    (staged : siblingsAreStaged children = true) :
    stageBarrierClosed (completeChild child.id status children) { child with status := status } = true ↔
      lowestOpenStage children < lowestOpenStage (completeChild child.id status children) := by
  rw [stageBarrierClosed_staged ((siblingsAreStaged_completeChild child.id status).trans staged)]
  simp only [← lt_lowestOpenStage_iff]
  constructor
  · rintro ⟨stage, own, above⟩
    have least : lowestOpenStage children ≤ stage :=
      List.minimum_le_of_mem' (mem_openStages.mpr ⟨child, member, wasOpen, own⟩)
    exact least.trans_lt above
  · intro raised
    obtain ⟨stage, lowest⟩ := WithTop.ne_top_iff_exists.mp (ne_top_of_lt raised)
    have held : stage ∈ openStages children := List.minimum_mem lowest.symm
    obtain ⟨sibling, listed, isOpen, own⟩ := mem_openStages.mp held
    -- Any other open child of this stage would keep it the lowest one.
    have only : sibling = child := by
      by_contra other
      have still : stage ∈ openStages (completeChild child.id status children) :=
        mem_openStages.mpr ⟨sibling, (mem_completeChild unique member).mpr (.inl ⟨listed, other⟩), isOpen, own⟩
      have least : lowestOpenStage (completeChild child.id status children) ≤ stage :=
        List.minimum_le_of_mem' still
      rw [← lowest] at raised
      exact absurd raised (not_lt.mpr least)
    subst only
    exact ⟨stage, own, lowest ▸ raised⟩

end MulticaOS.ChildDone
