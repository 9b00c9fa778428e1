import MulticaOS.Autopilots.Rows
import MulticaOS.Lib.Runs

/-!
The callers of `autopilot_webhook.go`, `webhook_delivery.go`, `webhook_delivery_worker.go`
and `autopilot.go`.  Each database statement is one step, and so is the transaction of
`dispatchCreateIssue`; a caller keeps what it has read in its own `Process`.
-/

namespace MulticaOS.Autopilots

def verifyWebhookSignatureForProvider (verifyHubSignature : String → String → String → Bool)
    (secret header body : String) : SignatureStatus :=
  if secret = "" then .notRequired
  else if header = "" then .missing
  else if !verifyHubSignature secret header body then .invalid
  else .valid

structure Request where
  triggerId : Id
  dedupeKey : Option String
  header : String
  body : String
  deriving DecidableEq

structure Inbound where
  request : Request
  signatureStatus : SignatureStatus
  deriving DecidableEq

def Inbound.new (inbound : Inbound) : NewDelivery where
  triggerId := inbound.request.triggerId
  dedupeKey := inbound.request.dedupeKey
  signatureStatus := inbound.signatureStatus
  replayedFrom := none

inductive Answer where
  | duplicate (delivery : Id)
  | rejected (delivery : Id)
  | ignored (delivery : Id)
  | accepted (delivery run : Id)
  | internalError
  deriving DecidableEq

inductive Entry where
  | worker (delivery : Delivery)
  | replay (delivery trigger : Id)
  | plan (trigger : Id) (plannedAt : Nat)
  | manual (trigger : Id)
  deriving DecidableEq

inductive Cause where
  | delivery (id : Id)
  | occurrence (trigger : Id) (plannedAt : Nat)
  | manual (trigger : Id)
  deriving DecidableEq

def Entry.cause : Entry → Cause
  | .worker delivery => .delivery delivery.id
  | .replay delivery _ => .delivery delivery
  | .plan trigger plannedAt => .occurrence trigger plannedAt
  | .manual trigger => .manual trigger

def Entry.trigger : Entry → Id
  | .worker delivery => delivery.triggerId
  | .replay _ trigger => trigger
  | .plan trigger _ => trigger
  | .manual trigger => trigger

def Entry.source : Entry → Source
  | .worker _ => .webhook
  | .replay _ _ => .webhook
  | .plan _ _ => .schedule
  | .manual _ => .manual

def Entry.plannedAt : Entry → Option Nat
  | .plan _ plannedAt => some plannedAt
  | _ => none

structure Caller where
  entry : Entry
  autopilot : Autopilot
  deriving DecidableEq

inductive Admitter where
  | ingress (inbound : Inbound) (delivery : Delivery) (autopilot : Autopilot)
  | worker (delivery : Delivery) (autopilot : Autopilot)
  deriving DecidableEq

def Admitter.delivery : Admitter → Delivery
  | .ingress _ delivery _ => delivery
  | .worker delivery _ => delivery

def Admitter.autopilot : Admitter → Autopilot
  | .ingress _ _ autopilot => autopilot
  | .worker _ autopilot => autopilot

/-- A caller, named after the statement it runs next.  `failRun` also carries the issue that its
dispatch has committed before it failed. -/
inductive Process where
  | createDelivery (inbound : Inbound)
  | lookupDuplicate (inbound : Inbound) (key : String)
  | bumpAttempt (inbound : Inbound) (existing : Delivery)
  | duplicateRun (inbound : Inbound) (delivery : Delivery)
  | finalise (inbound : Inbound) (delivery : Id) (status : DeliveryStatus) (reason : String)
      (answer : Answer)
  | answered (inbound : Inbound) (answer : Answer)
  | admitLookup (admitter : Admitter)
  | admitInsert (admitter : Admitter)
  | admitSkip (admitter : Admitter) (run : Run) (reason : String)
  | admitReload (admitter : Admitter)
  | claim
  | defer (delivery : Delivery)
  | loadAdmitted (delivery : Delivery) (autopilot : Autopilot)
  | retry (delivery : Delivery) (cause : String)
  | completeDelivery (delivery : Delivery) (status : DeliveryStatus) (run : Option Id)
      (reason : Option String)
  | ensureIssueTask (delivery : Delivery) (run : Run) (issue : Id)
  | findTask (caller : Caller) (delivery : Delivery) (run : Run)
  | repairLink (delivery : Delivery) (run : Run) (task : Id)
  | replayLoad (original : Id)
  | createReplay (original : Delivery) (autopilot : Autopilot)
  | finaliseReplay (delivery : Id) (status : DeliveryStatus) (run : Id)
  | failReplay (delivery : Id) (reason : String)
  | lookupPlanned (trigger : Id) (plannedAt : Nat) (autopilot : Autopilot)
  | recoverPartial (caller : Caller) (existing : Run)
  | insertRun (caller : Caller)
  | markSkipped (caller : Caller) (run : Run) (reason : String)
  | createIssue (caller : Caller) (run : Run)
  | enqueueTask (caller : Caller) (run : Run) (issue : Id)
  | createTask (caller : Caller) (run : Run)
  | linkTask (caller : Caller) (run : Run) (task : Id)
  | dispatchSkipped (caller : Caller) (run : Run) (reason : String)
  | failRun (caller : Caller) (run : Run) (reason : String) (created : Option Id)
  | syncIssue (issue : Id) (status : IssueStatus)
  | syncTask (run : Id) (outcome : Except String (Option String))
  | syncLinkedTask (issue : Id) (reason : String)
  | writeCompleted (run : Run) (result : Option String)
  | writeFailed (run : Run) (reason : String)
  | deleteIssue (issue : Id)
  | returned

inductive Loaded where
  | ok
  | error
  | ownershipMismatch
  | unparsable
  deriving DecidableEq

structure Outside where
  /-- The statement itself fails. -/
  fails : Bool := false
  picked : Id := 0
  limited : Bool := false
  retryAfter : Nat := 1
  loaded : Loaded := .ok
  /-- Why the trigger or the autopilot declines the event: disabled, archived, paused, filtered. -/
  scope : Option String := none
  /-- The reason of `shouldSkipDispatch`. -/
  skip : Option String := none
  /-- The reason of an `errDispatchSkipped` of `dispatchRunOnly`. -/
  unready : Option String := none
  title : String := ""
  activeTask : Bool := false
  deriving DecidableEq

def webhookWorkerMaxAttempts : Nat := 5

def retryOrFail (delivery : Delivery) (cause : String) : Process :=
  if webhookWorkerMaxAttempts ≤ delivery.dispatchAttempts + 1 then
    .completeDelivery delivery .failed none (some cause)
  else .retry delivery cause

def finishDelivery (delivery : Delivery) (run : Run) : Process :=
  if run.status = .failed then
    .completeDelivery delivery .failed (some run.id)
      (some (run.failureReason.getD "autopilot run failed"))
  else .completeDelivery delivery .dispatched (some run.id) none

def returnRun (caller : Caller) (run : Run) (error : Option String) : Process :=
  match caller.entry, error with
  | .worker delivery, none => finishDelivery delivery run
  | .worker delivery, some reason => .completeDelivery delivery .failed (some run.id) (some reason)
  | .replay delivery _, none => .finaliseReplay delivery .dispatched run.id
  | .replay delivery _, some _ => .finaliseReplay delivery .failed run.id
  | .plan _ _, _ => .returned
  | .manual _, _ => .returned

def returnNoRun (caller : Caller) (reason : String) : Process :=
  match caller.entry with
  | .replay delivery _ => .failReplay delivery reason
  | _ => .returned

def dispatchAutopilotRun (caller : Caller) (run : Run) : Process :=
  match caller.autopilot.executionMode with
  | .createIssue => .createIssue caller run
  | .runOnly => .createTask caller run

def admitted (admitter : Admitter) (run : Run) : Process :=
  match admitter with
  | .ingress inbound delivery _ => .answered inbound (.accepted delivery.id run.id)
  | .worker delivery autopilot =>
      let caller : Caller := ⟨.worker delivery, autopilot⟩
      if isAutopilotRunComplete run then
        match autopilot.executionMode, run.issueId with
        | .createIssue, some issue => .ensureIssueTask delivery run issue
        | _, _ => finishDelivery delivery run
      else if autopilot.executionMode = .runOnly ∧ run.taskId = none then .findTask caller delivery run
      else dispatchAutopilotRun caller run

def admissionFailed (admitter : Admitter) : Process :=
  match admitter with
  | .ingress inbound _ _ => .answered inbound .internalError
  | .worker delivery _ => retryOrFail delivery "admit webhook delivery"

def initialStatus (autopilot : Autopilot) (skip : Option String) : RunStatus :=
  match skip, autopilot.executionMode with
  | some _, _ => .skipped
  | none, .createIssue => .issueCreated
  | none, .runOnly => .running

def Admitter.newRun (admitter : Admitter) (skip : Option String) : NewRun where
  autopilotId := admitter.autopilot.id
  triggerId := some admitter.delivery.triggerId
  source := .webhook
  status := initialStatus admitter.autopilot skip
  plannedAt := none
  webhookDeliveryId := some admitter.delivery.id

def Caller.newRun (caller : Caller) (skip : Option String) : NewRun where
  autopilotId := caller.autopilot.id
  triggerId := some caller.entry.trigger
  source := caller.entry.source
  status := initialStatus caller.autopilot skip
  plannedAt := caller.entry.plannedAt
  webhookDeliveryId := none

inductive Statement where
  | read
  | createDelivery (new : NewDelivery)
  | bumpAttempt (id : Id)
  | finaliseTerminal (id : Id) (status : DeliveryStatus) (error : String)
  | finaliseDispatched (id : Id) (status : DeliveryStatus) (run : Id)
  | claim (picked : Id)
  | defer (delivery : Delivery) (retryAfter : Nat)
  | retry (delivery : Delivery) (cause : String)
  | complete (delivery : Delivery) (status : DeliveryStatus) (run : Option Id)
      (reason : Option String)
  | createRun (new : NewRun)
  | recover (run : Id)
  | createIssue (autopilot : Autopilot) (run : Id) (title : String)
  | createTask (run : Id)
  | enqueueTask (issue : Id)
  | ensureIssueTask (issue : Id)
  | running (run task : Id)
  | completed (run : Id) (result : Option String)
  | failed (run : Id) (reason : String)
  | skipped (run : Id) (reason : String)
  | failByIssue (issue : Id)
  deriving DecidableEq

def backoff (delivery : Delivery) : Nat := 2 ^ min delivery.dispatchAttempts 6

def ensureWebhookCreateIssueTask (tables : Tables) (issue : Id) : Tables :=
  match listTasksByIssue tables issue, tables.issues.find? fun row => row.id = issue with
  | [], some row =>
      if row.status = .todo ∨ row.status = .inProgress then enqueueTaskForIssue tables issue
      else tables
  | _, _ => tables

def execute (tables : Tables) : Statement → Tables
  | .read => tables
  | .createDelivery new =>
      match createWebhookDelivery tables new with
      | none => tables
      | some (next, _) => next
  | .bumpAttempt id => bumpWebhookDeliveryAttempt tables id
  | .finaliseTerminal id status error => updateWebhookDeliveryTerminal tables id status (some error)
  | .finaliseDispatched id status run => updateWebhookDeliveryDispatched tables id status (some run)
  | .claim picked =>
      match claimQueuedWebhookDelivery tables picked with
      | none => tables
      | some (next, _) => next
  | .defer delivery retryAfter =>
      deferClaimedWebhookDelivery tables delivery.id delivery.leaseToken (tables.now + retryAfter)
  | .retry delivery cause =>
      retryClaimedWebhookDelivery tables delivery.id delivery.leaseToken
        (tables.now + backoff delivery) cause
  | .complete delivery status run reason =>
      completeClaimedWebhookDelivery tables delivery.id delivery.leaseToken status run reason
  | .createRun new =>
      match createAutopilotRun tables new with
      | none => tables
      | some (next, _) => next
  | .recover run => recoverPartialAutopilotRun tables run
  | .createIssue autopilot run title =>
      match findRecentAutopilotDuplicateIssue tables autopilot title with
      | some _ => tables
      | none => createIssueForRun tables autopilot run title
  | .createTask run => createAutopilotTask tables run
  | .enqueueTask issue => enqueueTaskForIssue tables issue
  | .ensureIssueTask issue => ensureWebhookCreateIssueTask tables issue
  | .running run task => updateAutopilotRunRunning tables run task
  | .completed run result => updateAutopilotRunCompleted tables run result
  | .failed run reason => updateAutopilotRunFailed tables run (some reason)
  | .skipped run reason => updateAutopilotRunSkipped tables run reason
  | .failByIssue issue => failAutopilotRunsByIssue tables issue

/-- The autopilot as `dispatchCreateIssue` sees it: the project is read again. -/
def Caller.refreshed (autopilots : Id → Autopilot) (caller : Caller) : Autopilot :=
  { caller.autopilot with projectId := (autopilots caller.entry.trigger).projectId }

def Process.statement (autopilots : Id → Autopilot) (outside : Outside) : Process → Statement
  | .createDelivery inbound => .createDelivery inbound.new
  | .bumpAttempt _ existing => .bumpAttempt existing.id
  | .finalise _ delivery status reason _ => .finaliseTerminal delivery status reason
  | .admitInsert admitter => .createRun (admitter.newRun outside.skip)
  | .admitSkip _ run reason => .skipped run.id reason
  | .claim => .claim outside.picked
  | .defer delivery => .defer delivery outside.retryAfter
  | .retry delivery cause => .retry delivery cause
  | .completeDelivery delivery status run reason => .complete delivery status run reason
  | .ensureIssueTask _ _ issue => .ensureIssueTask issue
  | .repairLink _ run task => .running run.id task
  | .createReplay original _ =>
      .createDelivery ⟨original.triggerId, none, .notRequired, some original.id⟩
  | .finaliseReplay delivery status run => .finaliseDispatched delivery status run
  | .failReplay delivery reason => .finaliseTerminal delivery .failed reason
  | .recoverPartial _ existing => .recover existing.id
  | .insertRun caller => .createRun (caller.newRun outside.skip)
  | .markSkipped _ run reason => .skipped run.id reason
  | .createIssue caller run => .createIssue (caller.refreshed autopilots) run.id outside.title
  | .enqueueTask _ _ issue => .enqueueTask issue
  | .createTask _ run =>
      match outside.unready with
      | some _ => .read
      | none => .createTask run.id
  | .linkTask _ run task => .running run.id task
  | .dispatchSkipped _ run reason => .skipped run.id reason
  | .failRun _ run reason _ => .failed run.id reason
  | .writeCompleted run result => .completed run.id result
  | .writeFailed run reason => .failed run.id reason
  | .deleteIssue issue => .failByIssue issue
  | _ => .read

def reread (tables : Tables) (run : Run) : Run := (getAutopilotRun tables run.id).getD run

def Process.next (autopilots : Id → Autopilot) (tables : Tables) (outside : Outside) :
    Process → Process
  | .createDelivery inbound =>
      if outside.fails then .answered inbound .internalError
      else
        match createWebhookDelivery tables inbound.new, inbound.request.dedupeKey with
        | none, none => .answered inbound .internalError
        | none, some key => .lookupDuplicate inbound key
        | some (_, delivery), _ =>
            if inbound.signatureStatus.unauthenticated then
              .finalise inbound delivery.id .rejected
                (if inbound.signatureStatus = .missing then "missing_signature"
                  else "invalid_signature") (.rejected delivery.id)
            else
              match outside.scope with
              | some reason => .finalise inbound delivery.id .ignored reason (.ignored delivery.id)
              | none =>
                  .admitLookup (.ingress inbound delivery (autopilots inbound.request.triggerId))
  | .lookupDuplicate inbound key =>
      match outside.fails, getWebhookDeliveryByTriggerAndDedupe tables inbound.request.triggerId key with
      | false, some existing => .bumpAttempt inbound existing
      | _, _ => .answered inbound .internalError
  | .bumpAttempt inbound existing =>
      if outside.fails then .duplicateRun inbound existing
      else
        .duplicateRun inbound
          ((getWebhookDelivery (bumpWebhookDeliveryAttempt tables existing.id) existing.id).getD existing)
  | .duplicateRun inbound delivery =>
      if delivery.autopilotRunId = none ∧ outside.fails then .answered inbound .internalError
      else .answered inbound (.duplicate delivery.id)
  | .finalise inbound _ _ _ answer => .answered inbound answer
  | .answered inbound answer => .answered inbound answer
  | .admitLookup admitter =>
      if outside.fails then admissionFailed admitter
      else
        match getAutopilotRunByWebhookDelivery tables admitter.delivery.id with
        | some run => admitted admitter run
        | none => .admitInsert admitter
  | .admitInsert admitter =>
      if outside.fails then admissionFailed admitter
      else
        match createAutopilotRun tables (admitter.newRun outside.skip), outside.skip with
        | none, _ => .admitReload admitter
        | some (_, run), some reason => .admitSkip admitter run reason
        | some (_, run), none => admitted admitter run
  | .admitSkip admitter run reason =>
      if outside.fails then admitted admitter run
      else admitted admitter (reread (updateAutopilotRunSkipped tables run.id reason) run)
  | .admitReload admitter =>
      match outside.fails, getAutopilotRunByWebhookDelivery tables admitter.delivery.id with
      | false, some run => admitted admitter run
      | _, _ => admissionFailed admitter
  | .claim =>
      match outside.fails, claimQueuedWebhookDelivery tables outside.picked with
      | false, some (_, delivery) =>
          if outside.limited then .defer delivery
          else
            match outside.loaded with
            | .error => retryOrFail delivery "load trigger or autopilot"
            | .ownershipMismatch =>
                .completeDelivery delivery .failed none (some "delivery ownership mismatch")
            | .unparsable => .completeDelivery delivery .failed none (some "normalize stored body")
            | .ok => .loadAdmitted delivery (autopilots delivery.triggerId)
      | _, _ => .returned
  | .loadAdmitted delivery autopilot =>
      if outside.fails then retryOrFail delivery "load admitted run"
      else
        match getAutopilotRunByWebhookDelivery tables delivery.id, outside.scope with
        | none, some reason => .completeDelivery delivery .ignored none (some reason)
        | _, _ => .admitLookup (.worker delivery autopilot)
  | .ensureIssueTask delivery run issue =>
      match outside.fails, tables.issues.find? fun row => row.id = issue with
      | false, some _ => finishDelivery delivery run
      | _, _ => .completeDelivery delivery .failed (some run.id) (some "repair issue task")
  | .findTask caller delivery run =>
      if outside.fails then
        .completeDelivery delivery .failed (some run.id) (some "lookup linked task")
      else
        match getAutopilotTaskByRun tables run.id with
        | some task => .repairLink delivery run task.id
        | none => dispatchAutopilotRun caller run
  | .repairLink delivery run task =>
      if outside.fails then
        .completeDelivery delivery .failed (some run.id) (some "repair task linkage")
      else finishDelivery delivery (reread (updateAutopilotRunRunning tables run.id task) run)
  | .replayLoad original =>
      match outside.fails, getWebhookDelivery tables original with
      | false, some row =>
          if row.status = .rejected ∨ row.signatureStatus = .invalid ∨ outside.scope ≠ none then
            .returned
          else .createReplay row (autopilots row.triggerId)
      | _, _ => .returned
  | .createReplay original autopilot =>
      match outside.fails, createWebhookDelivery tables
        ⟨original.triggerId, none, .notRequired, some original.id⟩ with
      | false, some (_, delivery) =>
          .insertRun ⟨.replay delivery.id delivery.triggerId, autopilot⟩
      | _, _ => .returned
  | .lookupPlanned trigger plannedAt autopilot =>
      if outside.fails then .returned
      else
        match getAutopilotRunByTriggerAndPlanned tables trigger plannedAt with
        | none => .insertRun ⟨.plan trigger plannedAt, autopilot⟩
        | some existing =>
            if isAutopilotRunComplete existing then .returned
            else .recoverPartial ⟨.plan trigger plannedAt, autopilot⟩ existing
  | .recoverPartial caller _ => if outside.fails then .returned else .insertRun caller
  | .insertRun caller =>
      match outside.fails, createAutopilotRun tables (caller.newRun outside.skip), outside.skip with
      | false, some (_, run), some reason => .markSkipped caller run reason
      | false, some (_, run), none => dispatchAutopilotRun caller run
      | _, _, _ => returnNoRun caller "create run"
  | .markSkipped caller run reason =>
      if outside.fails then returnRun caller run none
      else returnRun caller (reread (updateAutopilotRunSkipped tables run.id reason) run) none
  | .createIssue caller run =>
      if outside.fails then .failRun caller run "create issue" none
      else
        match findRecentAutopilotDuplicateIssue tables (caller.refreshed autopilots) outside.title with
        | some _ => .dispatchSkipped caller run "recent duplicate autopilot issue"
        | none =>
            .enqueueTask caller
              (reread (createIssueForRun tables (caller.refreshed autopilots) run.id outside.title) run)
              tables.nextIssue
  | .enqueueTask caller run issue =>
      if outside.fails then .failRun caller run "enqueue task for issue" (some issue)
      else returnRun caller run none
  | .createTask caller run =>
      match outside.unready with
      | some reason => .dispatchSkipped caller run reason
      | none =>
          if outside.fails then .failRun caller run "create autopilot task" none
          else .linkTask caller run tables.nextTask
  | .linkTask caller run task =>
      if outside.fails then returnRun caller run none
      else returnRun caller (reread (updateAutopilotRunRunning tables run.id task) run) none
  | .dispatchSkipped caller run reason =>
      if outside.fails then .failRun caller run reason none
      else returnRun caller (reread (updateAutopilotRunSkipped tables run.id reason) run) none
  | .failRun caller run reason _ => returnRun caller run (some reason)
  | .syncIssue issue status =>
      match outside.fails, getAutopilotRunByIssue tables issue with
      | false, some run =>
          match status with
          | .done => .writeCompleted run none
          | .inReview => .writeCompleted run none
          | .cancelled => .writeFailed run "issue cancelled"
          | .blocked => .writeFailed run "issue blocked"
          | _ => .returned
      | _, _ => .returned
  | .syncTask id outcome =>
      match outside.fails, getAutopilotRun tables id with
      | false, some run =>
          match outcome with
          | .ok result => .writeCompleted run result
          | .error reason => .writeFailed run reason
      | _, _ => .returned
  | .syncLinkedTask issue reason =>
      match outside.fails, getAutopilotRunByIssue tables issue with
      | false, some run => if outside.activeTask then .returned else .writeFailed run reason
      | _, _ => .returned
  | .defer _ => .returned
  | .retry _ _ => .returned
  | .completeDelivery _ _ _ _ => .returned
  | .finaliseReplay _ _ _ => .returned
  | .failReplay _ _ => .returned
  | .writeCompleted _ _ => .returned
  | .writeFailed _ _ => .returned
  | .deleteIssue _ => .returned
  | .returned => .returned

inductive Product where
  | issue (id : Id)
  | task (id : Id)
  deriving DecidableEq

structure Made where
  cause : Cause
  run : Id
  product : Product
  deriving DecidableEq

def Process.started (tables : Tables) (outside : Outside) : Process → List (Cause × Id)
  | .admitInsert admitter =>
      match outside.fails, createAutopilotRun tables (admitter.newRun outside.skip) with
      | false, some (_, run) => [(.delivery admitter.delivery.id, run.id)]
      | _, _ => []
  | .insertRun caller =>
      match outside.fails, createAutopilotRun tables (caller.newRun outside.skip) with
      | false, some (_, run) => [(caller.entry.cause, run.id)]
      | _, _ => []
  | _ => []

def Process.made (autopilots : Id → Autopilot) (tables : Tables) (outside : Outside) :
    Process → List Made
  | .createIssue caller run =>
      match outside.fails,
        findRecentAutopilotDuplicateIssue tables (caller.refreshed autopilots) outside.title with
      | false, none => [⟨caller.entry.cause, run.id, .issue tables.nextIssue⟩]
      | _, _ => []
  | .createTask caller run =>
      match outside.fails, outside.unready with
      | false, none => [⟨caller.entry.cause, run.id, .task tables.nextTask⟩]
      | _, _ => []
  | _ => []

inductive Call where
  | webhook (request : Request)
  | processNext
  | replay (original : Id)
  | plan (trigger : Id) (plannedAt : Nat)
  | manual (trigger : Id)
  | issueUpdated (issue : Id) (status : IssueStatus)
  | taskEnded (run : Id) (outcome : Except String (Option String))
  | linkedTaskFailed (issue : Id) (reason : String)
  | issueDeleted (issue : Id)

structure State where
  tables : Tables
  autopilots : Id → Autopilot
  secrets : Id → String
  processes : List Process
  /-- Every run created so far, with what it was created for. -/
  started : List (Cause × Id)
  /-- Every issue and run_only task created so far. -/
  made : List Made

inductive Action where
  | call (call : Call)
  | advance (index : Nat) (outside : Outside)
  | crash (index : Nat)
  | elapse (duration : Nat)
  | editAutopilot (trigger : Id) (autopilot : Autopilot)
  | setSigningSecret (trigger : Id) (secret : String)
  | setIssueStatus (issue : Id) (status : IssueStatus)

section System

variable (verifyHubSignature : String → String → String → Bool)

def Call.start (state : State) : Call → Process
  | .webhook request =>
      .createDelivery ⟨request, verifyWebhookSignatureForProvider verifyHubSignature
        (state.secrets request.triggerId) request.header request.body⟩
  | .processNext => .claim
  | .replay original => .replayLoad original
  | .plan trigger plannedAt => .lookupPlanned trigger plannedAt (state.autopilots trigger)
  | .manual trigger => .insertRun ⟨.manual trigger, state.autopilots trigger⟩
  | .issueUpdated issue status => .syncIssue issue status
  | .taskEnded run outcome => .syncTask run outcome
  | .linkedTaskFailed issue reason => .syncLinkedTask issue reason
  | .issueDeleted issue => .deleteIssue issue

def step (state : State) : Action → State
  | .call call =>
      { state with processes := state.processes ++ [call.start verifyHubSignature state] }
  | .advance index outside =>
      match state.processes[index]? with
      | none => state
      | some process =>
          { state with
            tables := if outside.fails then state.tables
              else execute state.tables (process.statement state.autopilots outside)
            processes := state.processes.set index (process.next state.autopilots state.tables outside)
            started := state.started ++ process.started state.tables outside
            made := state.made ++ process.made state.autopilots state.tables outside }
  | .crash index => { state with processes := state.processes.set index .returned }
  | .elapse duration =>
      { state with tables := { state.tables with now := state.tables.now + duration } }
  | .editAutopilot trigger autopilot =>
      { state with autopilots := Function.update state.autopilots trigger autopilot }
  | .setSigningSecret trigger secret =>
      { state with secrets := Function.update state.secrets trigger secret }
  | .setIssueStatus issue status =>
      { state with tables := { state.tables with
          issues := TableLib.updateWhere (fun row => row.id = issue)
            (fun row => { row with status := status }) state.tables.issues } }

end System

def noRows : Tables := ⟨0, [], [], [], [], 0, 0, 0, 0, 0⟩

def initial (autopilots : Id → Autopilot) (secrets : Id → String) : State :=
  ⟨noRows, autopilots, secrets, [], [], []⟩

end MulticaOS.Autopilots
