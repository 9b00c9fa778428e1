import MulticaOS.Lib.Lists
import MulticaOS.Lib.Tables

/-!
The rows behind `autopilot.go` and the webhook handlers, and the statements of
`autopilot.sql` and `webhook_delivery.sql` that change them.  Times are in seconds.
-/

namespace MulticaOS.Autopilots

abbrev Id := Nat

inductive ExecutionMode where
  | createIssue
  | runOnly
  deriving DecidableEq

structure Autopilot where
  id : Id
  executionMode : ExecutionMode
  projectId : Option Id
  deriving DecidableEq

inductive SignatureStatus where
  | notRequired
  | valid
  | invalid
  | missing
  deriving DecidableEq

def SignatureStatus.unauthenticated (status : SignatureStatus) : Bool :=
  status = .invalid || status = .missing

inductive DeliveryStatus where
  | queued
  | dispatched
  | rejected
  | ignored
  | failed
  deriving DecidableEq

def DeliveryStatus.unsuccessful (status : DeliveryStatus) : Bool :=
  status = .rejected || status = .failed

structure Delivery where
  id : Id
  triggerId : Id
  dedupeKey : Option String
  signatureStatus : SignatureStatus
  status : DeliveryStatus
  attemptCount : Nat
  autopilotRunId : Option Id
  replayedFrom : Option Id
  error : Option String
  createdAt : Nat
  availableAt : Nat
  leaseToken : Option Nat
  leaseExpiresAt : Option Nat
  dispatchAttempts : Nat
  deriving DecidableEq

inductive RunStatus where
  | issueCreated
  | running
  | completed
  | failed
  | skipped
  deriving DecidableEq

def RunStatus.ended (status : RunStatus) : Bool :=
  status = .completed || status = .failed || status = .skipped

inductive Source where
  | schedule
  | manual
  | webhook
  deriving DecidableEq

structure Run where
  id : Id
  autopilotId : Id
  triggerId : Option Id
  source : Source
  status : RunStatus
  issueId : Option Id
  taskId : Option Id
  completedAt : Option Nat
  failureReason : Option String
  result : Option String
  plannedAt : Option Nat
  webhookDeliveryId : Option Id
  deriving DecidableEq

inductive IssueStatus where
  | todo
  | inProgress
  | inReview
  | done
  | blocked
  | cancelled
  | backlog
  deriving DecidableEq

/-- `title` stands for the title as `NormalizeTitle` leaves it. -/
structure Issue where
  id : Id
  originId : Id
  projectId : Option Id
  title : String
  status : IssueStatus
  createdAt : Nat
  deriving DecidableEq

structure Task where
  id : Id
  autopilotRunId : Option Id
  issueId : Option Id
  deriving DecidableEq

structure Tables where
  now : Nat
  deliveries : List Delivery
  runs : List Run
  issues : List Issue
  tasks : List Task
  nextDelivery : Nat
  nextRun : Nat
  nextIssue : Nat
  nextTask : Nat
  nextToken : Nat
  deriving DecidableEq

structure NewDelivery where
  triggerId : Id
  dedupeKey : Option String
  signatureStatus : SignatureStatus
  replayedFrom : Option Id
  deriving DecidableEq

def NewDelivery.row (new : NewDelivery) (id now : Nat) : Delivery where
  id := id
  triggerId := new.triggerId
  dedupeKey := new.dedupeKey
  signatureStatus := new.signatureStatus
  status := .queued
  attemptCount := 1
  autopilotRunId := none
  replayedFrom := new.replayedFrom
  error := none
  createdAt := now
  availableAt := now
  leaseToken := none
  leaseExpiresAt := none
  dispatchAttempts := 0

def Delivery.holds (triggerId : Id) (key : String) (row : Delivery) : Bool :=
  row.triggerId = triggerId && row.dedupeKey = some key && !row.status.unsuccessful

def deliveryCollides (tables : Tables) (new : NewDelivery) : Bool :=
  match new.dedupeKey with
  | none => false
  | some key => tables.deliveries.any (Delivery.holds new.triggerId key)

def createWebhookDelivery (tables : Tables) (new : NewDelivery) : Option (Tables × Delivery) :=
  if deliveryCollides tables new then none
  else
    let row := new.row tables.nextDelivery tables.now
    some ({ tables with
      deliveries := tables.deliveries ++ [row]
      nextDelivery := tables.nextDelivery + 1 }, row)

def getWebhookDelivery (tables : Tables) (id : Id) : Option Delivery :=
  tables.deliveries.find? fun row => row.id = id

/-- `ORDER BY (status IN ('rejected', 'failed')), created_at DESC`. -/
def Delivery.preferred (left right : Delivery) : Bool :=
  match left.status.unsuccessful, right.status.unsuccessful with
  | false, true => true
  | true, false => false
  | _, _ => right.createdAt < left.createdAt

def getWebhookDeliveryByTriggerAndDedupe (tables : Tables) (triggerId : Id) (key : String) :
    Option Delivery :=
  TableLib.first Delivery.preferred
    (tables.deliveries.filter fun row => row.triggerId = triggerId && row.dedupeKey = some key)

def updateDeliveries (tables : Tables) (matching : Delivery → Bool) (change : Delivery → Delivery) :
    Tables :=
  { tables with deliveries := TableLib.updateWhere matching change tables.deliveries }

def Delivery.bump (row : Delivery) : Delivery := { row with attemptCount := row.attemptCount + 1 }

def bumpWebhookDeliveryAttempt (tables : Tables) (id : Id) : Tables :=
  updateDeliveries tables (fun row => row.id = id) Delivery.bump

def updateWebhookDeliveryTerminal (tables : Tables) (id : Id) (status : DeliveryStatus)
    (error : Option String) : Tables :=
  updateDeliveries tables (fun row => row.id = id) fun row =>
    { row with status := status, error := error }

def updateWebhookDeliveryDispatched (tables : Tables) (id : Id) (status : DeliveryStatus)
    (runId : Option Id) : Tables :=
  updateDeliveries tables (fun row => row.id = id) fun row =>
    { row with status := status, autopilotRunId := runId }

def Delivery.claimable (now : Nat) (row : Delivery) : Bool :=
  row.status = .queued && row.availableAt ≤ now &&
    match row.leaseExpiresAt with
    | none => true
    | some expires => expires ≤ now

def claimLease : Nat := 120

def Delivery.leased (token now : Nat) (row : Delivery) : Delivery :=
  { row with leaseToken := some token, leaseExpiresAt := some (now + claimLease) }

/-- `ClaimQueuedWebhookDelivery`.  Other replicas may hold locks on earlier rows, which
`SKIP LOCKED` passes over, so any claimable row can be the one that is picked. -/
def claimQueuedWebhookDelivery (tables : Tables) (picked : Id) : Option (Tables × Delivery) :=
  match tables.deliveries.find? fun row => row.id = picked && row.claimable tables.now with
  | none => none
  | some row =>
      some ({ updateDeliveries tables (fun other => other.id = picked)
          (Delivery.leased tables.nextToken tables.now) with
        nextToken := tables.nextToken + 1 }, row.leased tables.nextToken tables.now)

def Delivery.claimedBy (id : Id) (token : Option Nat) (row : Delivery) : Bool :=
  row.id = id && row.leaseToken = token && token.isSome && row.status = .queued

def deferClaimedWebhookDelivery (tables : Tables) (id : Id) (token : Option Nat)
    (availableAt : Nat) : Tables :=
  updateDeliveries tables (Delivery.claimedBy id token) fun row =>
    { row with availableAt := availableAt, leaseToken := none, leaseExpiresAt := none }

def retryClaimedWebhookDelivery (tables : Tables) (id : Id) (token : Option Nat)
    (availableAt : Nat) (error : String) : Tables :=
  updateDeliveries tables (Delivery.claimedBy id token) fun row =>
    { row with
      availableAt := availableAt
      dispatchAttempts := row.dispatchAttempts + 1
      error := some error
      leaseToken := none
      leaseExpiresAt := none }

def completeClaimedWebhookDelivery (tables : Tables) (id : Id) (token : Option Nat)
    (status : DeliveryStatus) (runId : Option Id) (error : Option String) : Tables :=
  updateDeliveries tables (Delivery.claimedBy id token) fun row =>
    { row with
      status := status
      autopilotRunId := runId
      dispatchAttempts := row.dispatchAttempts + 1
      error := error
      leaseToken := none
      leaseExpiresAt := none }

structure NewRun where
  autopilotId : Id
  triggerId : Option Id
  source : Source
  status : RunStatus
  plannedAt : Option Nat
  webhookDeliveryId : Option Id
  deriving DecidableEq

def NewRun.row (new : NewRun) (id : Id) : Run where
  id := id
  autopilotId := new.autopilotId
  triggerId := new.triggerId
  source := new.source
  status := new.status
  issueId := none
  taskId := none
  completedAt := none
  failureReason := none
  result := none
  plannedAt := new.plannedAt
  webhookDeliveryId := new.webhookDeliveryId

/-- The run of one planned occurrence: the key of `uq_autopilot_run_trigger_planned`. -/
def Run.plannedFor (triggerId plannedAt : Nat) (row : Run) : Bool :=
  row.triggerId = some triggerId && row.plannedAt = some plannedAt

def Run.deliveredFor (delivery : Id) (row : Run) : Bool := row.webhookDeliveryId = some delivery

def runCollides (tables : Tables) (new : NewRun) : Bool :=
  tables.runs.any fun row =>
    (match new.triggerId, new.plannedAt with
      | some triggerId, some plannedAt => row.plannedFor triggerId plannedAt
      | _, _ => false) ||
    (match new.webhookDeliveryId with
      | some delivery => row.deliveredFor delivery
      | none => false)

def createAutopilotRun (tables : Tables) (new : NewRun) : Option (Tables × Run) :=
  if runCollides tables new then none
  else
    let row := new.row tables.nextRun
    some ({ tables with runs := tables.runs ++ [row], nextRun := tables.nextRun + 1 }, row)

def getAutopilotRun (tables : Tables) (id : Id) : Option Run :=
  tables.runs.find? fun row => row.id = id

def getAutopilotRunByTriggerAndPlanned (tables : Tables) (triggerId plannedAt : Nat) : Option Run :=
  tables.runs.find? (Run.plannedFor triggerId plannedAt)

def getAutopilotRunByWebhookDelivery (tables : Tables) (delivery : Id) : Option Run :=
  tables.runs.find? (Run.deliveredFor delivery)

def Run.activeFor (issue : Id) (row : Run) : Bool :=
  row.issueId = some issue && (row.status = .issueCreated || row.status = .running)

def getAutopilotRunByIssue (tables : Tables) (issue : Id) : Option Run :=
  tables.runs.find? (Run.activeFor issue)

def updateRuns (tables : Tables) (matching : Run → Bool) (change : Run → Run) : Tables :=
  { tables with runs := TableLib.updateWhere matching change tables.runs }

def recoveredReason : String := "recovered partial dispatch (crashed before downstream creation)"

def Run.recover (now : Nat) (row : Run) : Run :=
  { row with
    status := .failed
    completedAt := some now
    failureReason := some recoveredReason
    plannedAt := none }

def recoverPartialAutopilotRun (tables : Tables) (id : Id) : Tables :=
  updateRuns tables (fun row => row.id = id) (Run.recover tables.now)

def Run.linkIssue (issue : Id) (row : Run) : Run :=
  { row with status := .issueCreated, issueId := some issue }

def Run.linkTask (task : Id) (row : Run) : Run :=
  { row with status := .running, taskId := some task }

def Run.complete (now : Nat) (result : Option String) (row : Run) : Run :=
  { row with status := .completed, completedAt := some now, result := result }

def Run.fail (now : Nat) (reason : Option String) (row : Run) : Run :=
  { row with status := .failed, completedAt := some now, failureReason := reason }

def Run.skip (now : Nat) (reason : String) (row : Run) : Run :=
  { row with status := .skipped, completedAt := some now, failureReason := some reason }

def updateRun (tables : Tables) (id : Id) (change : Run → Run) : Tables :=
  updateRuns tables (fun row => row.id = id) change

def updateAutopilotRunRunning (tables : Tables) (id task : Id) : Tables :=
  updateRun tables id (Run.linkTask task)

def updateAutopilotRunCompleted (tables : Tables) (id : Id) (result : Option String) : Tables :=
  updateRun tables id (Run.complete tables.now result)

def updateAutopilotRunFailed (tables : Tables) (id : Id) (reason : Option String) : Tables :=
  updateRun tables id (Run.fail tables.now reason)

def updateAutopilotRunSkipped (tables : Tables) (id : Id) (reason : String) : Tables :=
  updateRun tables id (Run.skip tables.now reason)

def failAutopilotRunsByIssue (tables : Tables) (issue : Id) : Tables :=
  updateRuns tables (Run.activeFor issue) (Run.fail tables.now (some "linked issue was deleted"))

def autopilotRecentDuplicateWindow : Nat := 60

def Run.observable (autopilot issue : Id) (row : Run) : Bool :=
  row.issueId = some issue && row.autopilotId = autopilot &&
    (row.status = .issueCreated || row.status = .running || row.status = .completed)

def findRecentAutopilotDuplicateIssue (tables : Tables) (autopilot : Autopilot) (title : String) :
    Option Issue :=
  if title = "" then none
  else tables.issues.find? fun issue =>
    issue.status ≠ .done && issue.status ≠ .cancelled && issue.originId = autopilot.id &&
      issue.projectId = autopilot.projectId && issue.title = title &&
      tables.now ≤ issue.createdAt + autopilotRecentDuplicateWindow &&
      tables.runs.any (Run.observable autopilot.id issue.id)

/-- The transaction of `dispatchCreateIssue` once the guard has let it pass: the issue and
the link from its run are committed together. -/
def createIssueForRun (tables : Tables) (autopilot : Autopilot) (run : Id) (title : String) :
    Tables :=
  updateRun
    { tables with
      issues := tables.issues ++ [⟨tables.nextIssue, autopilot.id, autopilot.projectId, title, .todo,
        tables.now⟩]
      nextIssue := tables.nextIssue + 1 }
    run (Run.linkIssue tables.nextIssue)

def createAutopilotTask (tables : Tables) (run : Id) : Tables :=
  { tables with
    tasks := tables.tasks ++ [⟨tables.nextTask, some run, none⟩]
    nextTask := tables.nextTask + 1 }

def enqueueTaskForIssue (tables : Tables) (issue : Id) : Tables :=
  { tables with
    tasks := tables.tasks ++ [⟨tables.nextTask, none, some issue⟩]
    nextTask := tables.nextTask + 1 }

def getAutopilotTaskByRun (tables : Tables) (run : Id) : Option Task :=
  tables.tasks.find? fun task => task.autopilotRunId = some run

def listTasksByIssue (tables : Tables) (issue : Id) : List Task :=
  tables.tasks.filter fun task => task.issueId = some issue

def isAutopilotRunComplete (run : Run) : Bool :=
  match run.status with
  | .completed | .failed | .skipped => true
  | .issueCreated => run.issueId.isSome
  | .running => run.taskId.isSome

end MulticaOS.Autopilots
