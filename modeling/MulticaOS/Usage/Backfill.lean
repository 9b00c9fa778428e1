import MulticaOS.Lib.Calendar
import MulticaOS.Lib.Runs
import MulticaOS.Usage.Pipeline

/-!
The backfill before migration 103, translated from `backfill.go`, and the steps of the system.
-/

namespace MulticaOS.Usage

open CalendarLib
open RollupLib
open RunLib

def UsageRow.event (row : UsageRow) : Time := row.updatedAt.getD row.createdAt

structure UsageRange where
  minEvent : Time
  maxEvent : Time

def loadUsageRange (state : State) : Option UsageRange :=
  match (state.usage.rows.map UsageRow.createdAt).min?, (state.usage.rows.map UsageRow.event).max? with
  | some minEvent, some maxEvent => some ⟨minEvent, maxEvent⟩
  | _, _ => none

def maxLagThreshold : Time := hours 1

def stampWatermark (now : Time) (state : State) : State := setWatermark (now - minutes 5) state

def month (ts : Time) : Nat := monthOf (ts / days 1)

def monthTime (month : Nat) : Time := days (monthStart month)

def slices (range : UsageRange) : List (Time × Time) :=
  (List.range' (month range.minEvent) (month range.maxEvent + 1 - month range.minEvent)).map fun month =>
    (monthTime month, monthTime (month + 1))

def walk (slices : List (Time × Time)) (state : State) : State :=
  slices.foldl (fun walked slice => rollupTaskUsageHourlyWindow slice.1 slice.2 walked) state

/-- `Hook`, of a run that gets through that many slices before it is cancelled or fails, or all of
them. -/
def hook (now lagThreshold : Time) (cancelledAfter : Option Nat) (state : State) : State :=
  let threshold := if lagThreshold = 0 then maxLagThreshold else lagThreshold
  match loadUsageRange state with
  | none => stampWatermark now state
  | some range =>
      if range.maxEvent ≤ state.rollup.watermark + threshold then stampWatermark now state
      else
        match cancelledAfter with
        | some count => walk ((slices range).take count) state
        | none => stampWatermark now (walk (slices range) state)

inductive Write where
  | upsertUsage (report : UsageReport)
  | deleteUsage (key : Nat × String × String)
  | createTask (id : Nat) (task : Task)
  | updateTask (id : Nat) (runtimeID issueID : Option Nat)
  | deleteTask (id : Nat)
  | createIssue (id : Nat) (issue : Issue)
  | deleteIssue (id : Nat)
  | setProject (id : Nat) (projectID : Option Nat)

inductive Action where
  | write (transactionTime : Time) (write : Write)
  | tick (lockOk : Bool)
  | hook (lagThreshold : Time) (cancelledAfter : Option Nat)

def apply (now : Time) : Write → State → State
  | .upsertUsage report => upsertTaskUsage now report
  | .deleteUsage key => deleteTaskUsage now key
  | .createTask id task => createTask id task
  | .updateTask id runtimeID issueID => updateTask now id runtimeID issueID
  | .deleteTask id => deleteTask now id
  | .createIssue id issue => createIssue id issue
  | .deleteIssue id => deleteIssue now id
  | .setProject id projectID => setProject now id projectID

structure Event where
  now : Time
  action : Action

def step (state : State) (event : Event) : State :=
  let done :=
    match event.action with
    | .write transactionTime write => apply transactionTime write state
    | .tick lockOk => rollupTaskUsageHourly event.now lockOk state
    | .hook lagThreshold cancelledAfter => hook event.now lagThreshold cancelledAfter state
  { done with clock := event.now }

def sameWorkspace (state : State) (agentID : Nat) (issueID : Option Nat) : Bool :=
  (issueID.bind state.issues).all fun issue => issue.workspaceID = state.agentWorkspace agentID

def Admissible (state : State) : Write → Prop
  | .createTask _ task => sameWorkspace state task.agentID task.issueID = true
  | .updateTask id _ issueID => ∀ task, state.tasks id = some task → sameWorkspace state task.agentID issueID = true
  | _ => True

/-- Time moves on, writers commit within five minutes, and no row waits in the queue for longer
than the retention. -/
def Allowed (state : State) (event : Event) : Prop :=
  state.clock ≤ event.now ∧
    match event.action with
    | .write transactionTime write =>
        transactionTime ≤ event.now ∧ event.now ≤ transactionTime + minutes 5 ∧ Admissible state write
    | .tick lockOk => lockOk = true → ∀ key enqueuedAt,
        (rollupTick event.now state).rollup.queued key = some enqueuedAt → event.now ≤ enqueuedAt + days 7
    | .hook _ _ => True

def walkedFrom (lagThreshold : Time) (state : State) : Option Time :=
  (loadUsageRange state).bind fun range =>
    if range.maxEvent ≤ state.rollup.watermark + (if lagThreshold = 0 then maxLagThreshold else lagThreshold)
    then none else some (monthTime (month range.minEvent))

/-- A backfill that stamps the watermark has walked over the usage that it passes: what was
updated since the watermark is not five minutes old, or it is in the months of the walk. -/
def Covered (state : State) (event : Event) : Prop :=
  match event.action with
  | .hook lagThreshold cancelledAfter =>
      walkedFrom lagThreshold state = none ∨ cancelledAfter = none → ∀ row ∈ state.usage.rows,
        (rowKey state row).isSome = true → state.rollup.watermark ≤ row.event →
        event.now - minutes 5 ≤ row.event ∨
          (walkedFrom lagThreshold state).any (fun first => first ≤ row.event) = true
  | _ => True

structure Consistent (state : State) : Prop where
  usage : ∀ row ∈ state.usage.rows, (state.tasks row.taskID).isSome = true
  issues : ∀ id task, state.tasks id = some task → issueExists state task.issueID = true
  workspaces : ∀ id task, state.tasks id = some task → sameWorkspace state task.agentID task.issueID = true

/-- The tables as the migrations leave them: usage, tasks and issues of any age, and nothing rolled
up. -/
structure Migrated (state : State) : Prop where
  consistent : Consistent state
  hourly : ∀ key, state.rollup.derived key = none
  dirty : ∀ key, state.rollup.queued key = none
  watermark : state.rollup.watermark = 0

end MulticaOS.Usage
