import MulticaOS.IssueCreation.Titles
import MulticaOS.IssueTable.Tables
import MulticaOS.Lib.Lists
import MulticaOS.Lib.Runs
import MulticaOS.Lib.Tables

/-!
Concurrent `IssueService.Create` transactions, statement by statement under READ COMMITTED: every
statement reads what is committed, and the advisory lock and the row lock of the workspace are held to
the end of the transaction.
-/

namespace MulticaOS.IssueCreation

open IssueTable (Status)

variable {Id Columns : Type} [DecidableEq Id]

/-- A row of `issue`; `columns` are those that are copied from the parameters unread. -/
structure Issue (Id Columns : Type) where
  id : Id
  workspaceID : Id
  number : Nat
  title : Text
  status : Status
  parentIssueID : Option Id
  projectID : Option Id
  position : Rat
  createdAt : Int
  columns : Columns

structure IssueCreateParams (Id Columns : Type) where
  workspaceID : Id
  title : Text
  status : Status
  parentIssueID : Option Id
  projectID : Option Id
  labelIDs : List (Option Id)
  allowDuplicate : Bool
  columns : Columns

/-- What is committed: issues in the order of their commits, `workspace.issue_counter`, and the labels of
issues. -/
structure Tables (Id Columns : Type) where
  issues : List (Issue Id Columns)
  counter : Id → Nat
  labels : List (Id × Id)

/-- An error of `Create`; the wrapped ones carry the text that `fmt.Errorf` puts first. -/
inductive Refusal (Id Columns : Type)
  | failed (context : String)
  | parentIssueNotFound
  | projectNotFound
  | issueLabelNotFound
  | activeDuplicate (duplicate : Issue Id Columns)

structure Resolved (Id : Type) where
  projectID : Option Id
  labels : List Id

/-- The statement that a transaction is at, from the end of `LockIssueDuplicateKey` on. -/
inductive Statement (Id Columns : Type)
  | find
  | count
  | top (number : Nat)
  | insert (number : Nat) (position : Rat)
  | attach (issue : Issue Id Columns) (label : Id) (todo : List Id) (attached : List (Id × Id))
  | commit (issue : Issue Id Columns) (attached : List (Id × Id))

inductive Stage (Id Columns : Type)
  | begin
  | parent (parentID : Id)
  | project (projectID : Id)
  | label (projectID : Option Id) (labelID : Id) (todo : List (Option Id)) (found : List Id)
  | lock (resolved : Resolved Id)
  | inside (resolved : Resolved Id) (statement : Statement Id Columns)
  | created (issue : Issue Id Columns)
  | refused (refusal : Refusal Id Columns)

structure Process (Id Columns : Type) where
  params : IssueCreateParams Id Columns
  stage : Stage Id Columns

structure Choice (Id : Type) where
  fails : Bool
  projectExists : Bool
  labelResourceType : Option String
  id : Id
  now : Int

section Code

variable (params : IssueCreateParams Id Columns)

def guarded (resolved : Resolved Id) : Stage Id Columns :=
  if normalizeTitle params.title = [] then .inside resolved .count else .lock resolved

def validateIssueLabels (projectID : Option Id) : List (Option Id) → List Id → Stage Id Columns
  | [], found => guarded params ⟨projectID, found⟩
  | none :: todo, found => validateIssueLabels projectID todo found
  | some labelID :: todo, found =>
      if labelID ∈ found then validateIssueLabels projectID todo found
      else .label projectID labelID todo found

def resolveProject : Option Id → Stage Id Columns
  | some projectID => .project projectID
  | none => validateIssueLabels params none params.labelIDs []

def resolveParent : Stage Id Columns :=
  match params.parentIssueID with
  | some parentID => .parent parentID
  | none => resolveProject params params.projectID

def attachLabels (resolved : Resolved Id) (issue : Issue Id Columns) (attached : List (Id × Id)) :
    List Id → Stage Id Columns
  | [] => .inside resolved (.commit issue attached)
  | label :: todo => .inside resolved (.attach issue label todo attached)

end Code

def isActive (issue : Issue Id Columns) : Bool := issue.status ≠ .done && issue.status ≠ .cancelled

/-- The `WHERE` of `FindActiveDuplicateIssue`. -/
def isActiveDuplicate (params : IssueCreateParams Id Columns) (projectID : Option Id)
    (issue : Issue Id Columns) : Bool :=
  issue.workspaceID = params.workspaceID && isActive issue && issue.projectID = projectID &&
    issue.parentIssueID = params.parentIssueID &&
    storedNormalization issue.title = normalizeTitle params.title

def findActiveDuplicateIssue (tables : Tables Id Columns) (params : IssueCreateParams Id Columns)
    (projectID : Option Id) : Option (Issue Id Columns) :=
  TableLib.first (fun left right => decide (left.createdAt < right.createdAt))
    (tables.issues.filter (isActiveDuplicate params projectID))

def inColumn (params : IssueCreateParams Id Columns) (issue : Issue Id Columns) : Bool :=
  issue.workspaceID = params.workspaceID && issue.status = params.status

def nextTopPosition (tables : Tables Id Columns) (params : IssueCreateParams Id Columns) : Rat :=
  match TableLib.first (fun left right => decide (left.position < right.position))
      (tables.issues.filter (inColumn params)) with
  | some lowest => lowest.position - 1
  | none => 0 - 1

def newIssue (params : IssueCreateParams Id Columns) (resolved : Resolved Id) (number : Nat)
    (position : Rat) (choice : Choice Id) : Issue Id Columns where
  id := choice.id
  workspaceID := params.workspaceID
  number := number
  title := params.title
  status := params.status
  parentIssueID := params.parentIssueID
  projectID := resolved.projectID
  position := position
  createdAt := choice.now
  columns := params.columns

def Tables.commit (tables : Tables Id Columns) (issue : Issue Id Columns) (attached : List (Id × Id)) :
    Tables Id Columns where
  issues := tables.issues ++ [issue]
  counter := Function.update tables.counter issue.workspaceID issue.number
  labels := tables.labels ++ attached

def execute (tables : Tables Id Columns) (params : IssueCreateParams Id Columns) (choice : Choice Id) :
    Stage Id Columns → Stage Id Columns
  | .begin => resolveParent params
  | .parent parentID =>
      match tables.issues.find? fun issue => issue.id = parentID ∧ issue.workspaceID = params.workspaceID with
      | none => .refused .parentIssueNotFound
      | some parent => resolveProject params (params.projectID.or parent.projectID)
  | .project projectID =>
      if choice.projectExists then validateIssueLabels params (some projectID) params.labelIDs []
      else .refused .projectNotFound
  | .label projectID labelID todo found =>
      if choice.labelResourceType = some "issue" then
        validateIssueLabels params projectID todo (found ++ [labelID])
      else .refused .issueLabelNotFound
  | .lock resolved => .inside resolved (if params.allowDuplicate then .count else .find)
  | .inside resolved .find =>
      match findActiveDuplicateIssue tables params resolved.projectID with
      | some duplicate => .refused (.activeDuplicate duplicate)
      | none => .inside resolved .count
  | .inside resolved .count => .inside resolved (.top (tables.counter params.workspaceID + 1))
  | .inside resolved (.top number) => .inside resolved (.insert number (nextTopPosition tables params))
  | .inside resolved (.insert number position) =>
      attachLabels resolved (newIssue params resolved number position choice) [] resolved.labels
  | .inside resolved (.attach issue label todo attached) =>
      attachLabels resolved issue
        (if choice.labelResourceType = some "issue" then attached ++ [(issue.id, label)] else attached) todo
  | .inside _ (.commit issue _) => .created issue
  | .created issue => .created issue
  | .refused refusal => .refused refusal

/-- The error that a failing statement leads to. The deferred rollback takes everything back. -/
def Stage.failure : Stage Id Columns → Stage Id Columns
  | .begin => .refused (.failed "begin tx")
  | .parent _ => .refused .parentIssueNotFound
  | .project _ => .refused .projectNotFound
  | .label _ _ _ _ => .refused (.failed "get issue label")
  | .lock _ | .inside _ .find => .refused (.failed "duplicate guard")
  | .inside _ .count => .refused (.failed "increment counter")
  | .inside _ (.top _) => .refused (.failed "next top position")
  | .inside _ (.insert _ _) => .refused (.failed "create issue")
  | .inside _ (.attach _ _ _ _) => .refused (.failed "attach issue label")
  | .inside _ (.commit _ _) => .refused (.failed "commit")
  | .created issue => .created issue
  | .refused refusal => .refused refusal

/-! Locks and steps. `text` is `util.UUIDToString` and `hash` is `hashtextextended`. -/

section Locks

variable (text : Option Id → String) (hash : String → Int)

def lockKey (workspaceID projectID parentIssueID : Option Id) (normalizedTitle : Text) : String :=
  "|".intercalate ["issue-active-duplicate", text workspaceID, text projectID, text parentIssueID,
    String.ofList normalizedTitle]

def wantedKey (params : IssueCreateParams Id Columns) (resolved : Resolved Id) : Int :=
  hash (lockKey text (some params.workspaceID) resolved.projectID params.parentIssueID
    (normalizeTitle params.title))

def Process.key (process : Process Id Columns) : Option Int :=
  match process.stage with
  | .inside resolved _ =>
      if normalizeTitle process.params.title = [] then none else some (wantedKey text hash process.params resolved)
  | _ => none

def Process.row (process : Process Id Columns) : Option Id :=
  match process.stage with
  | .inside _ .find | .inside _ .count => none
  | .inside _ _ => some process.params.workspaceID
  | _ => none

structure State (Id Columns : Type) where
  tables : Tables Id Columns
  processes : List (Process Id Columns)
  log : List (Nat × Issue Id Columns)

def initial (tables : Tables Id Columns) (requests : List (IssueCreateParams Id Columns)) : State Id Columns :=
  { tables := tables, processes := requests.map fun params => ⟨params, .begin⟩, log := [] }

def heldByOther {Lock : Type} [DecidableEq Lock] (held : Process Id Columns → Option Lock)
    (processes : List (Process Id Columns)) (index : Nat) (wanted : Lock) : Bool :=
  processes.zipIdx.any fun entry => entry.2 ≠ index && held entry.1 = some wanted

def blocked (state : State Id Columns) (index : Nat) (process : Process Id Columns) : Bool :=
  match process.stage with
  | .lock resolved =>
      heldByOther (Process.key text hash) state.processes index (wantedKey text hash process.params resolved)
  | .inside _ .count => heldByOther Process.row state.processes index process.params.workspaceID
  | _ => false

structure Action (Id : Type) where
  index : Nat
  choice : Choice Id

def State.move (state : State Id Columns) (index : Nat) (process : Process Id Columns)
    (stage : Stage Id Columns) : State Id Columns :=
  { state with processes := state.processes.set index { process with stage := stage } }

/-- The next statement of a transaction, unless it waits. Only a commit changes the tables. -/
def step (state : State Id Columns) (action : Action Id) : State Id Columns :=
  match state.processes[action.index]? with
  | none => state
  | some process =>
      if action.choice.fails then state.move action.index process process.stage.failure
      else if blocked text hash state action.index process then state
      else
        let moved := state.move action.index process
          (execute state.tables process.params action.choice process.stage)
        match process.stage with
        | .inside _ (.commit issue attached) =>
            { moved with
              tables := state.tables.commit issue attached
              log := state.log ++ [(action.index, issue)] }
        | _ => moved

end Locks

section Exclusion

variable {Lock : Type} [DecidableEq Lock] {held : Process Id Columns → Option Lock}
variable {processes : List (Process Id Columns)} {index : Nat} {process moved : Process Id Columns}

def Exclusive (held : Process Id Columns → Option Lock) (processes : List (Process Id Columns)) : Prop :=
  ∀ (first second : Nat) left right lock, processes[first]? = some left → processes[second]? = some right →
    held left = some lock → held right = some lock → first = second

omit [DecidableEq Id] in
theorem not_held {lock : Lock} (free : heldByOther held processes index lock = false) {other : Nat}
    (found : processes[other]? = some process) (holds : held process = some lock) : other = index := by
  by_contra apart
  have listed : (process, other) ∈ processes.zipIdx := List.mk_mem_zipIdx_iff_getElem?.mpr found
  have none := List.any_eq_false.mp free (process, other) listed
  simp [apart, holds] at none

omit [DecidableEq Id] in
theorem Exclusive.set (exclusive : Exclusive held processes) (found : processes[index]? = some process)
    (takes : ∀ lock, held moved = some lock →
      held process = some lock ∨ heldByOther held processes index lock = false) :
    Exclusive held (processes.set index moved) := by
  have others : ∀ (other : Nat) right lock, processes[other]? = some right → other ≠ index →
      held right = some lock → held moved ≠ some lock := by
    intro other right lock isRight apart holds gains
    rcases takes lock gains with before | free
    · exact apart (exclusive other index right process lock isRight found holds before)
    · exact apart (not_held free isRight holds)
  intro first second left right lock isLeft isRight holdsLeft holdsRight
  rcases ListLib.getElem?_set_some isLeft with ⟨rfl, rfl⟩ | ⟨apart, wasLeft⟩
  · rcases ListLib.getElem?_set_some isRight with ⟨rfl, -⟩ | ⟨apart, wasRight⟩
    · rfl
    · exact absurd holdsLeft (others second right lock wasRight apart holdsRight)
  · rcases ListLib.getElem?_set_some isRight with ⟨rfl, rfl⟩ | ⟨-, wasRight⟩
    · exact absurd holdsRight (others first left lock wasLeft apart holdsLeft)
    · exact exclusive first second left right lock wasLeft wasRight holdsLeft holdsRight

end Exclusion

def Statement.issue : Statement Id Columns → Option (Issue Id Columns)
  | .attach issue _ _ _ | .commit issue _ => some issue
  | _ => none

def Statement.number : Statement Id Columns → Option Nat
  | .top number | .insert number _ => some number
  | .attach issue _ _ _ | .commit issue _ => some issue.number
  | _ => none

def Statement.position : Statement Id Columns → Option Rat
  | .insert _ position => some position
  | .attach issue _ _ _ | .commit issue _ => some issue.position
  | _ => none

def Duplicates (params : IssueCreateParams Id Columns) (projectID : Option Id)
    (earlier : Issue Id Columns) : Prop :=
  earlier.workspaceID = params.workspaceID ∧ isActive earlier = true ∧ earlier.projectID = projectID ∧
    earlier.parentIssueID = params.parentIssueID ∧ normalizeTitle earlier.title = normalizeTitle params.title

structure Inside (tables : Tables Id Columns) (params : IssueCreateParams Id Columns) (resolved : Resolved Id)
    (statement : Statement Id Columns) : Prop where
  clear : statement ≠ .find → params.allowDuplicate = false → normalizeTitle params.title ≠ [] →
    ∀ earlier ∈ tables.issues, ¬Duplicates params resolved.projectID earlier
  number : ∀ number, statement.number = some number → number = tables.counter params.workspaceID + 1
  position : ∀ position, statement.position = some position →
    ∀ earlier ∈ tables.issues, inColumn params earlier = true → position < earlier.position
  issue : ∀ issue, statement.issue = some issue → ∃ number position choice,
    issue = newIssue params resolved number position choice

def Unguarded (params : IssueCreateParams Id Columns) (stage : Stage Id Columns) : Prop :=
  ∀ resolved statement, stage = .inside resolved statement →
    statement = .count ∧ normalizeTitle params.title = []

section Code

variable {params : IssueCreateParams Id Columns} {tables : Tables Id Columns} {resolved : Resolved Id}

omit [DecidableEq Id] in
theorem unguarded_guarded (resolved : Resolved Id) : Unguarded params (guarded params resolved) := by
  intro other statement same
  rw [guarded] at same
  split at same
  · rename_i blank
    rw [Stage.inside.injEq] at same
    exact ⟨same.2.symm, blank⟩
  · cases same

theorem unguarded_validate (projectID : Option Id) (todo : List (Option Id)) (found : List Id) :
    Unguarded params (validateIssueLabels params projectID todo found) := by
  induction todo generalizing found with
  | nil => exact unguarded_guarded _
  | cons label rest ih =>
      cases label with
      | none => exact ih found
      | some labelID =>
          rw [validateIssueLabels]
          split
          · exact ih found
          · exact nofun

theorem unguarded_resolveProject (projectID : Option Id) :
    Unguarded params (resolveProject params projectID) := by
  cases projectID with
  | none => exact unguarded_validate none _ _
  | some _ => exact nofun

theorem unguarded_resolveParent : Unguarded params (resolveParent params) := by
  rw [resolveParent]
  split
  · exact nofun
  · exact unguarded_resolveProject _

theorem inside_of_blank (blank : normalizeTitle params.title = []) : Inside tables params resolved .count where
  clear := fun _ _ guarded => absurd blank guarded
  number := nofun
  position := nofun
  issue := nofun

theorem nextTopPosition_below {earlier : Issue Id Columns} (listed : earlier ∈ tables.issues)
    (column : inColumn params earlier = true) : nextTopPosition tables params < earlier.position := by
  have member : earlier ∈ tables.issues.filter (inColumn params) := List.mem_filter.mpr ⟨listed, column⟩
  rw [nextTopPosition]
  split
  · rename_i lowest found
    have least := TableLib.first_least found earlier member
    linarith
  · rename_i none
    rw [TableLib.first_eq_none.mp none] at member
    contradiction

theorem clear_of_find (ascii : ∀ issue ∈ tables.issues, Ascii issue.title)
    (none : findActiveDuplicateIssue tables params resolved.projectID = none) :
    ∀ earlier ∈ tables.issues, ¬Duplicates params resolved.projectID earlier := by
  rintro earlier listed ⟨workspace, active, project, parent, title⟩
  have unmatched := List.filter_eq_nil_iff.mp (TableLib.first_eq_none.mp none) earlier listed
  rw [← storedNormalization_eq (ascii earlier listed)] at title
  simp [isActiveDuplicate, workspace, active, project, parent, title] at unmatched

theorem inside_attachLabels {issue : Issue Id Columns} {statement : Statement Id Columns}
    (clear : params.allowDuplicate = false → normalizeTitle params.title ≠ [] →
      ∀ earlier ∈ tables.issues, ¬Duplicates params resolved.projectID earlier)
    (number : issue.number = tables.counter params.workspaceID + 1)
    (position : ∀ earlier ∈ tables.issues, inColumn params earlier = true → issue.position < earlier.position)
    (made : ∃ number position choice, issue = newIssue params resolved number position choice)
    {attached : List (Id × Id)} {todo : List Id} {other : Resolved Id}
    (stage : attachLabels resolved issue attached todo = .inside other statement) :
    Inside tables params other statement := by
  cases todo <;>
    · simp only [attachLabels, Stage.inside.injEq] at stage
      obtain ⟨rfl, rfl⟩ := stage
      exact ⟨fun _ => clear, by rintro _ ⟨⟩; exact number, by rintro _ ⟨⟩; exact position,
        by rintro _ ⟨⟩; exact made⟩

theorem inside_execute {choice : Choice Id} {stage : Stage Id Columns} {statement : Statement Id Columns}
    (ascii : ∀ issue ∈ tables.issues, Ascii issue.title)
    (relies : ∀ resolved statement, stage = .inside resolved statement → Inside tables params resolved statement)
    (next : execute tables params choice stage = .inside resolved statement) :
    Inside tables params resolved statement := by
  have unguarded : Unguarded params (execute tables params choice stage) →
      Inside tables params resolved statement := by
    intro unguarded
    obtain ⟨rfl, blank⟩ := unguarded resolved statement next
    exact inside_of_blank blank
  cases stage with
  | begin => exact unguarded unguarded_resolveParent
  | parent parentID =>
      refine unguarded ?_
      rw [execute]
      split
      · exact nofun
      · exact unguarded_resolveProject _
  | project projectID =>
      refine unguarded ?_
      rw [execute]
      split
      · exact unguarded_validate _ _ _
      · exact nofun
  | label projectID labelID todo found =>
      refine unguarded ?_
      rw [execute]
      split
      · exact unguarded_validate _ _ _
      · exact nofun
  | lock other =>
      rw [execute, Stage.inside.injEq] at next
      obtain ⟨rfl, rfl⟩ := next
      split
      · rename_i allowed
        exact ⟨fun _ guards => absurd allowed (by simp [guards]), nofun, nofun, nofun⟩
      · exact ⟨fun find => absurd rfl find, nofun, nofun, nofun⟩
  | inside other current =>
      have before := relies other current rfl
      cases current with
      | find =>
          rw [execute] at next
          split at next
          · cases next
          · rename_i none
            rw [Stage.inside.injEq] at next
            obtain ⟨rfl, rfl⟩ := next
            exact ⟨fun _ _ _ => clear_of_find ascii none, nofun, nofun, nofun⟩
      | count =>
          rw [execute, Stage.inside.injEq] at next
          obtain ⟨rfl, rfl⟩ := next
          exact ⟨fun _ => before.clear nofun, by rintro _ ⟨⟩; rfl, nofun, nofun⟩
      | top number =>
          rw [execute, Stage.inside.injEq] at next
          obtain ⟨rfl, rfl⟩ := next
          exact ⟨fun _ => before.clear nofun, by rintro _ ⟨⟩; exact before.number number rfl,
            by rintro _ ⟨⟩; exact fun earlier listed column => nextTopPosition_below listed column, nofun⟩
      | insert number position =>
          exact inside_attachLabels (before.clear nofun) (before.number number rfl)
            (before.position position rfl) ⟨number, position, choice, rfl⟩ next
      | attach issue label todo attached =>
          exact inside_attachLabels (before.clear nofun) (before.number _ rfl) (before.position _ rfl)
            (before.issue issue rfl) next
      | commit issue attached => cases next
  | created issue => cases next
  | refused refusal => cases next

end Code

end MulticaOS.IssueCreation
