import Mathlib
import MulticaOS.Lib.Rollups
import MulticaOS.Lib.Upserts

/-!
The hourly usage rollup, translated from `102_task_usage_hourly_pipeline.up.sql`, whose window
function migration 213 replaces by one with cost columns, and from `task_usage.sql`.  Times are
microseconds since 1970.  A transaction happens at its commit, with the older time that
`now()` gives all of its statements.
-/

namespace MulticaOS.Usage

open RollupLib
open UpsertLib

abbrev Time := Nat

@[irreducible] def minutes (count : Nat) : Time := count * 60 * 1000000

@[irreducible] def hours (count : Nat) : Time := count * minutes 60

@[irreducible] def days (count : Nat) : Time := count * hours 24

def taskUsageHourBucket (ts : Time) : Time := ts - ts % hours 1

structure Key where
  bucketHour : Time
  workspaceID : Nat
  runtimeID : Nat
  agentID : Nat
  projectID : Option Nat
  provider : String
  model : String
  deriving DecidableEq

structure UsageRow where
  taskID : Nat
  provider : String
  model : String
  inputTokens : Int
  outputTokens : Int
  cacheReadTokens : Int
  cacheWriteTokens : Int
  costUSDTicks : Option Int
  createdAt : Time
  updatedAt : Option Time
  deriving DecidableEq

def UsageRow.key (row : UsageRow) : Nat × String × String := (row.taskID, row.provider, row.model)

/-- The columns of `task_usage_hourly` beside its key. -/
structure Totals where
  inputTokens : Int
  outputTokens : Int
  cacheReadTokens : Int
  cacheWriteTokens : Int
  costUSDTicks : Int
  uncostedInputTokens : Int
  uncostedOutputTokens : Int
  uncostedCacheReadTokens : Int
  uncostedCacheWriteTokens : Int
  taskCount : Nat
  eventCount : Nat
  deriving DecidableEq

structure Task where
  runtimeID : Option Nat
  agentID : Nat
  issueID : Option Nat
  deriving DecidableEq

structure Issue where
  workspaceID : Nat
  projectID : Option Nat
  deriving DecidableEq

/-- The rollup is `task_usage_hourly`, `task_usage_hourly_dirty` with its `enqueued_at`, and
`watermark_at`. -/
structure State where
  clock : Time
  agentWorkspace : Nat → Nat
  tasks : Nat → Option Task
  issues : Nat → Option Issue
  usage : Table UsageRow (Nat × String × String) UsageRow.key
  rollup : Rollup Key Totals

def usageKey (workspaceID runtimeID agentID : Nat) (projectID : Option Nat) (row : UsageRow) : Key :=
  ⟨taskUsageHourBucket row.createdAt, workspaceID, runtimeID, agentID, projectID, row.provider, row.model⟩

def projectOf (issues : Nat → Option Issue) (issueID : Option Nat) : Option Nat :=
  (issueID.bind issues).bind Issue.projectID

def taskKey (state : State) (task : Task) (row : UsageRow) : Option Key :=
  task.runtimeID.map fun runtimeID =>
    usageKey (state.agentWorkspace task.agentID) runtimeID task.agentID (projectOf state.issues task.issueID) row

def rowKey (state : State) (row : UsageRow) : Option Key :=
  (state.tasks row.taskID).bind fun task => taskKey state task row

def source (state : State) : Source UsageRow Key := ⟨state.usage.rows, rowKey state⟩

def rowsOf (state : State) (taskID : Nat) : List UsageRow :=
  state.usage.rows.filter fun row => row.taskID = taskID

def enqueueDirty (now : Time) (keys : List Key) (state : State) : State :=
  { state with rollup := enqueue now keys state.rollup }

structure UsageReport where
  taskID : Nat
  provider : String
  model : String
  inputTokens : Int
  outputTokens : Int
  cacheReadTokens : Int
  cacheWriteTokens : Int
  costUSDTicks : Option Int

def UsageReport.row (report : UsageReport) (now : Time) : UsageRow :=
  ⟨report.taskID, report.provider, report.model, report.inputTokens, report.outputTokens,
    report.cacheReadTokens, report.cacheWriteTokens, report.costUSDTicks, now, some now⟩

def UsageReport.overwrite (report : UsageReport) (now : Time) (old : UsageRow) : UsageRow :=
  { old with
    inputTokens := report.inputTokens
    outputTokens := report.outputTokens
    cacheReadTokens := report.cacheReadTokens
    cacheWriteTokens := report.cacheWriteTokens
    costUSDTicks := report.costUSDTicks
    updatedAt := some now }

theorem overwrite_key (report : UsageReport) (now : Time) (old : UsageRow)
    (same : old.key = (report.row now).key) : (report.overwrite now old).key = (report.row now).key := same

def upsertTaskUsage (now : Time) (report : UsageReport) (state : State) : State :=
  match state.tasks report.taskID with
  | none => state
  | some _ =>
      { state with
        usage := state.usage.upsert (report.row now) (report.overwrite now) (overwrite_key report now) }

def deleteTaskUsage (now : Time) (key : Nat × String × String) (state : State) : State :=
  match state.usage.lookup key with
  | none => state
  | some row =>
      { enqueueDirty now (rowKey state row).toList state with
        usage := state.usage.delete fun other => other.key ≠ key }

def issueExists (state : State) (issueID : Option Nat) : Bool :=
  issueID.all fun id => (state.issues id).isSome

def createTask (id : Nat) (task : Task) (state : State) : State :=
  if (state.tasks id).isNone && issueExists state task.issueID then
    { state with tasks := Function.update state.tasks id (some task) }
  else state

/-- `enqueue_task_usage_hourly_dirty_for_atq`, for one side. -/
def taskKeys (state : State) (id : Nat) (task : Task) : List Key := (rowsOf state id).filterMap (taskKey state task)

def updateTask (now : Time) (id : Nat) (runtimeID issueID : Option Nat) (state : State) : State :=
  match state.tasks id with
  | none => state
  | some old =>
      let new : Task := ⟨runtimeID, old.agentID, issueID⟩
      if issueExists state issueID then
        let fired :=
          if old.runtimeID ≠ new.runtimeID ∨ old.issueID ≠ new.issueID then
            enqueueDirty now (taskKeys state id new) (enqueueDirty now (taskKeys state id old) state)
          else state
        { fired with tasks := Function.update state.tasks id (some new) }
      else state

/-- The usage rows of a deleted task go with it; their own trigger finds no task. -/
def deleteTask (now : Time) (id : Nat) (state : State) : State :=
  match state.tasks id with
  | none => state
  | some old =>
      { enqueueDirty now (taskKeys state id old) state with
        tasks := Function.update state.tasks id none
        usage := state.usage.delete fun row => row.taskID ≠ id }

def createIssue (id : Nat) (issue : Issue) (state : State) : State :=
  if (state.issues id).isNone then { state with issues := Function.update state.issues id (some issue) } else state

def about (state : State) (id : Nat) (row : UsageRow) : Bool :=
  (state.tasks row.taskID).any fun task => task.issueID = some id

def issueKeys (state : State) (id workspaceID : Nat) (projectID : Option Nat) : List Key :=
  (state.usage.rows.filter (about state id)).filterMap fun row =>
    (state.tasks row.taskID).bind fun task =>
      task.runtimeID.map fun runtimeID => usageKey workspaceID runtimeID task.agentID projectID row

/-- The trigger of the issue fires while it is readable; those of its tasks fire when it is
gone. -/
def deleteIssue (now : Time) (id : Nat) (state : State) : State :=
  match state.issues id with
  | none => state
  | some old =>
      let gone := { enqueueDirty now (issueKeys state id old.workspaceID old.projectID) state with
        issues := Function.update state.issues id none }
      { enqueueDirty now ((gone.usage.rows.filter (about gone id)).filterMap (rowKey gone)) gone with
        tasks := fun taskID => (gone.tasks taskID).filter fun task => task.issueID ≠ some id
        usage := gone.usage.delete fun row => !about gone id row }

def setProject (now : Time) (id : Nat) (projectID : Option Nat) (state : State) : State :=
  match state.issues id with
  | none => state
  | some old =>
      let fired :=
        if old.projectID ≠ projectID then
          enqueueDirty now (issueKeys state id old.workspaceID projectID)
            (enqueueDirty now (issueKeys state id old.workspaceID old.projectID) state)
        else state
      { fired with issues := Function.update state.issues id (some ⟨old.workspaceID, projectID⟩) }

def UsageRow.within (row : UsageRow) (pFrom pTo : Time) : Bool :=
  match row.updatedAt with
  | some updatedAt => pFrom ≤ updatedAt && updatedAt < pTo
  | none => pFrom ≤ row.createdAt && row.createdAt < pTo

def dirtyFromUpdates (state : State) (pFrom pTo : Time) : List Key :=
  (state.usage.rows.filter fun row => row.within pFrom pTo).filterMap (rowKey state)

def dirtyFromQueue (state : State) (pTo : Time) (key : Key) : Bool := (state.rollup.queued key).any (· < pTo)

def dirtyKey (state : State) (pFrom pTo : Time) (key : Key) : Bool :=
  key ∈ dirtyFromUpdates state pFrom pTo || dirtyFromQueue state pTo key

/-- The aggregates of one group.  There is no group without rows. -/
def recomputed (rows : List UsageRow) : Option Totals :=
  let uncosted := rows.filter fun row => row.costUSDTicks.isNone
  if rows = [] then none
  else some ⟨(rows.map UsageRow.inputTokens).sum, (rows.map UsageRow.outputTokens).sum,
    (rows.map UsageRow.cacheReadTokens).sum, (rows.map UsageRow.cacheWriteTokens).sum,
    (rows.filterMap UsageRow.costUSDTicks).sum,
    (uncosted.map UsageRow.inputTokens).sum, (uncosted.map UsageRow.outputTokens).sum,
    (uncosted.map UsageRow.cacheReadTokens).sum, (uncosted.map UsageRow.cacheWriteTokens).sum,
    (rows.map UsageRow.taskID).dedup.length, rows.length⟩

def rollupTaskUsageHourlyWindow (pFrom pTo : Time) (state : State) : State :=
  if pTo ≤ pFrom then state
  else
    { state with
      rollup :=
        { state.rollup with
          derived := fun key =>
            if dirtyKey state pFrom pTo key then
              recomputed (state.usage.rows.filter fun row => rowKey state row = some key)
            else state.rollup.derived key
          queued := fun key => (state.rollup.queued key).filter fun enqueuedAt => !(enqueuedAt < pTo) } }

def pruneTaskUsageHourlyDirty (now : Time) (state : State) : State :=
  { state with rollup := prune (now - days 7) state.rollup }

def setWatermark (watermarkAt : Time) (state : State) : State :=
  { state with rollup := { state.rollup with watermark := watermarkAt } }

/-- A tick ends five minutes ago, and covers a day at most. -/
def tickEnd (now vFrom : Time) : Time := min (now - minutes 5) (vFrom + days 1)

def rollupTick (now : Time) (state : State) : State :=
  if state.rollup.watermark < tickEnd now state.rollup.watermark then
    setWatermark (tickEnd now state.rollup.watermark)
      (rollupTaskUsageHourlyWindow state.rollup.watermark (tickEnd now state.rollup.watermark) state)
  else state

def rollupTaskUsageHourly (now : Time) (lockOk : Bool) (state : State) : State :=
  if lockOk then pruneTaskUsageHourlyDirty now (rollupTick now state) else state

end MulticaOS.Usage
