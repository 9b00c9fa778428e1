import MulticaOS.Lib.Runs
import MulticaOS.Lib.Tables
import MulticaOS.Scheduler.Spec

/-!
`sys_cron_executions` and the statements of `db_ops.go` on it.  A lease is the right to
run one attempt of one plan; the table remembers every lease it has handed out.
-/

namespace MulticaOS.Scheduler

inductive Status where
  | running
  | success
  | failed
  deriving DecidableEq

/-- A row.  Every statement that inserts one sets its times, so they are not nullable here. -/
structure Execution where
  id : Nat
  jobName : String
  scope : Scope
  planTime : Int
  status : Status
  attempt : Nat
  maxAttempts : Int
  nextRetryAt : Option Int
  runnerId : String
  leaseToken : Nat
  heartbeatAt : Int
  staleAfter : Int
  startedAt : Int
  finishedAt : Option Int
  durationMs : Option Nat
  rowsAffected : Option Int
  result : String
  errorCode : Option String
  errorMsg : Option (List UInt8)
  updatedAt : Int
  deriving DecidableEq

structure Key where
  jobName : String
  scope : Scope
  planTime : Int
  deriving DecidableEq

def Execution.key (row : Execution) : Key := ⟨row.jobName, row.scope, row.planTime⟩

structure Claim where
  id : Nat
  leaseToken : Nat
  attempt : Nat
  deriving DecidableEq

structure Table where
  now : Int
  nextId : Nat
  nextToken : Nat
  rows : List Execution
  granted : List Claim

def emptyTable (now : Int) : Table := ⟨now, 0, 0, [], []⟩

inductive Failure where
  | checkViolation
  | leaseLost
  | marshalResult
  | resultTooLarge (bytes : Nat)
  deriving DecidableEq

structure ClaimRequest where
  job : JobSpec
  scope : Scope
  planTime : Int
  dbTime : Int
  runnerId : String

def ClaimRequest.key (request : ClaimRequest) : Key :=
  ⟨request.job.name, request.scope, request.planTime⟩

def ClaimRequest.row (request : ClaimRequest) (id token : Nat) : Execution where
  id := id
  jobName := request.job.name
  scope := request.scope
  planTime := request.planTime
  status := .running
  attempt := 1
  maxAttempts := request.job.maxAttempts
  nextRetryAt := none
  runnerId := request.runnerId
  leaseToken := token
  heartbeatAt := request.dbTime
  staleAfter := request.dbTime + leaseInterval request.job.staleTimeout
  startedAt := request.dbTime
  finishedAt := none
  durationMs := none
  rowsAffected := none
  result := "\x7b\x7d"
  errorCode := none
  errorMsg := none
  updatedAt := request.dbTime

def claimInsert (table : Table) (request : ClaimRequest) : Except Failure (Table × Option Claim) :=
  if request.job.maxAttempts < 1 then .error .checkViolation
  else if table.rows.any fun row => row.key = request.key then .ok (table, none)
  else
    .ok ({ table with
        nextId := table.nextId + 1
        nextToken := table.nextToken + 1
        rows := table.rows ++ [request.row table.nextId table.nextToken]
        granted := table.granted ++ [⟨table.nextId, table.nextToken, 1⟩] },
      some ⟨table.nextId, table.nextToken, 1⟩)

def Execution.stale (row : Execution) (dbTime : Int) : Bool :=
  row.status = .running && row.staleAfter < dbTime

def Execution.retryDue (row : Execution) (dbTime : Int) : Bool :=
  row.status = .failed && row.nextRetryAt.getD dbTime ≤ dbTime

def ClaimRequest.takes (request : ClaimRequest) (row : Execution) : Bool :=
  row.key = request.key && row.attempt < row.maxAttempts &&
    (row.retryDue request.dbTime || (row.stale request.dbTime && request.job.allowStaleReentry))

def Execution.retake (request : ClaimRequest) (token : Nat) (row : Execution) : Execution :=
  { row with
    status := .running
    attempt := row.attempt + 1
    runnerId := request.runnerId
    leaseToken := token
    heartbeatAt := request.dbTime
    staleAfter := request.dbTime + leaseInterval request.job.staleTimeout
    startedAt := request.dbTime
    finishedAt := none
    durationMs := none
    nextRetryAt := none
    errorCode := none
    errorMsg := none
    updatedAt := request.dbTime }

def claimSteal (table : Table) (request : ClaimRequest) : Table × Option Claim :=
  match table.rows.find? request.takes with
  | none => (table, none)
  | some row =>
      ({ table with
          nextToken := table.nextToken + 1
          rows := TableLib.updateWhere request.takes
            (Execution.retake request table.nextToken) table.rows
          granted := table.granted ++ [⟨row.id, table.nextToken, row.attempt + 1⟩] },
        some ⟨row.id, table.nextToken, row.attempt + 1⟩)

inductive ClaimOutcome where
  | won (claim : Claim)
  | stole (claim : Claim)
  | conflicted
  deriving DecidableEq

def tryClaim (table : Table) (request : ClaimRequest) : Except Failure (Table × ClaimOutcome) :=
  match claimInsert table request with
  | .error failure => .error failure
  | .ok (next, some claim) => .ok (next, .won claim)
  | .ok (next, none) =>
      match claimSteal next request with
      | (taken, some claim) => .ok (taken, .stole claim)
      | (taken, none) => .ok (taken, .conflicted)

def staleTimeoutCode : String := "stale_timeout"

def Execution.sweep (dbTime : Int) (row : Execution) : Execution :=
  { row with
    status := .failed
    finishedAt := some dbTime
    errorCode := some staleTimeoutCode
    errorMsg := some "lease expired without heartbeat".toUTF8.toList
    updatedAt := dbTime }

def sweeps (jobName : String) (dbTime : Int) (row : Execution) : Bool :=
  row.jobName = jobName && row.stale dbTime

def markStaleAsFailed (table : Table) (jobName : String) (dbTime : Int) : Table × Nat :=
  ({ table with
      rows := TableLib.updateWhere (sweeps jobName dbTime) (Execution.sweep dbTime) table.rows },
    table.rows.countP (sweeps jobName dbTime))

def heldBy (id leaseToken : Nat) (row : Execution) : Bool :=
  row.id = id && row.leaseToken = leaseToken && row.status = .running

def updateHeld (table : Table) (id leaseToken : Nat) (change : Execution → Execution) :
    Table × Except Failure Unit :=
  ({ table with rows := TableLib.updateWhere (heldBy id leaseToken) change table.rows },
    if table.rows.countP (heldBy id leaseToken) = 0 then .error .leaseLost else .ok ())

def Execution.beat (now : Int) (staleTimeout : Int) (row : Execution) : Execution :=
  { row with
    heartbeatAt := now
    staleAfter := now + leaseInterval staleTimeout
    updatedAt := now }

def heartbeat (table : Table) (id leaseToken : Nat) (staleTimeout : Int) :
    Table × Except Failure Unit :=
  updateHeld table id leaseToken (Execution.beat table.now staleTimeout)

/-- A handler's result map, as far as `json.Marshal` goes with it. -/
inductive Payload where
  | empty
  | marshalled (json : String)
  | unmarshallable

def encodeResult : Payload → Except Failure String
  | .empty => .ok "\x7b\x7d"
  | .unmarshallable => .error .marshalResult
  | .marshalled json =>
      if json.utf8ByteSize > 16 * 1024 then .error (.resultTooLarge json.utf8ByteSize) else .ok json

structure HandlerResult where
  rowsAffected : Int
  result : Payload

def Execution.succeed (dbTime : Int) (durationMs : Nat) (rowsAffected : Int) (result : String)
    (row : Execution) : Execution :=
  { row with
    status := .success
    finishedAt := some dbTime
    durationMs := some durationMs
    rowsAffected := some rowsAffected
    result := result
    errorCode := none
    errorMsg := none
    updatedAt := dbTime }

def finishSuccess (table : Table) (id leaseToken : Nat) (dbTime : Int) (durationMs : Nat)
    (res : HandlerResult) : Table × Except Failure Unit :=
  match encodeResult res.result with
  | .error failure => (table, .error failure)
  | .ok json =>
      updateHeld table id leaseToken (Execution.succeed dbTime durationMs res.rowsAffected json)

def Execution.fail (dbTime : Int) (durationMs : Nat) (errorCode : String) (errorMsg : List UInt8)
    (nextRetryAt : Option Int) (row : Execution) : Execution :=
  { row with
    status := .failed
    finishedAt := some dbTime
    durationMs := some durationMs
    nextRetryAt := nextRetryAt
    errorCode := some (if errorCode = "" then "handler_error" else errorCode)
    errorMsg := some (errorMsg.take 4000)
    updatedAt := dbTime }

def finishFailure (table : Table) (id leaseToken : Nat) (dbTime : Int) (durationMs : Nat)
    (errorCode : String) (errorMsg : List UInt8) (nextRetryAt : Option Int) :
    Table × Except Failure Unit :=
  updateHeld table id leaseToken
    (Execution.fail dbTime durationMs errorCode errorMsg nextRetryAt)

inductive Statement where
  | elapse (duration : Nat)
  | claimInsert (request : ClaimRequest)
  | claimSteal (request : ClaimRequest)
  | markStaleAsFailed (jobName : String) (dbTime : Int)
  | heartbeat (id leaseToken : Nat) (staleTimeout : Int)
  | finishSuccess (id leaseToken : Nat) (dbTime : Int) (durationMs : Nat) (res : HandlerResult)
  | finishFailure (id leaseToken : Nat) (dbTime : Int) (durationMs : Nat) (errorCode : String)
      (errorMsg : List UInt8) (nextRetryAt : Option Int)

def execute (table : Table) : Statement → Table
  | .elapse duration => { table with now := table.now + duration }
  | .claimInsert request =>
      match claimInsert table request with
      | .ok (next, _) => next
      | .error _ => table
  | .claimSteal request => (claimSteal table request).1
  | .markStaleAsFailed jobName dbTime => (markStaleAsFailed table jobName dbTime).1
  | .heartbeat id leaseToken staleTimeout => (heartbeat table id leaseToken staleTimeout).1
  | .finishSuccess id leaseToken dbTime durationMs res =>
      (finishSuccess table id leaseToken dbTime durationMs res).1
  | .finishFailure id leaseToken dbTime durationMs errorCode errorMsg nextRetryAt =>
      (finishFailure table id leaseToken dbTime durationMs errorCode errorMsg nextRetryAt).1

inductive RowStep (table : Table) : Statement → Execution → Execution → Prop
  | same {statement : Statement} (row : Execution) : RowStep table statement row row
  | swept {jobName : String} {dbTime : Int} {row : Execution} (named : row.jobName = jobName)
      (stale : row.stale dbTime = true) :
      RowStep table (.markStaleAsFailed jobName dbTime) row (row.sweep dbTime)
  | beat {id token : Nat} {staleTimeout : Int} {row : Execution} (held : heldBy id token row = true) :
      RowStep table (.heartbeat id token staleTimeout) row (row.beat table.now staleTimeout)
  | succeeded {id token : Nat} {dbTime : Int} {durationMs : Nat} {res : HandlerResult}
      {json : String} {row : Execution} (held : heldBy id token row = true) :
      RowStep table (.finishSuccess id token dbTime durationMs res) row
        (row.succeed dbTime durationMs res.rowsAffected json)
  | failed {id token : Nat} {dbTime : Int} {durationMs : Nat} {errorCode : String}
      {errorMsg : List UInt8} {nextRetryAt : Option Int} {row : Execution}
      (held : heldBy id token row = true) :
      RowStep table (.finishFailure id token dbTime durationMs errorCode errorMsg nextRetryAt) row
        (row.fail dbTime durationMs errorCode errorMsg nextRetryAt)

inductive Executed (table : Table) (statement : Statement) (next : Table) : Prop
  | edited (change : Execution → Execution) (rows : next.rows = table.rows.map change)
      (each : ∀ row ∈ table.rows, RowStep table statement row (change row))
      (granted : next.granted = table.granted) (nextId : next.nextId = table.nextId)
      (nextToken : next.nextToken = table.nextToken)
  | inserted (request : ClaimRequest) (by_insert : statement = .claimInsert request)
      (budget : 1 ≤ request.job.maxAttempts)
      (absent : ∀ row ∈ table.rows, row.key ≠ request.key)
      (rows : next.rows = table.rows ++ [request.row table.nextId table.nextToken])
      (granted : next.granted = table.granted ++ [⟨table.nextId, table.nextToken, 1⟩])
      (nextId : next.nextId = table.nextId + 1) (nextToken : next.nextToken = table.nextToken + 1)
  | stolen (request : ClaimRequest) (row : Execution) (by_steal : statement = .claimSteal request)
      (member : row ∈ table.rows) (takes : request.takes row = true)
      (rows : next.rows = TableLib.updateWhere request.takes
        (Execution.retake request table.nextToken) table.rows)
      (granted : next.granted = table.granted ++ [⟨row.id, table.nextToken, row.attempt + 1⟩])
      (nextId : next.nextId = table.nextId) (nextToken : next.nextToken = table.nextToken + 1)

theorem Executed.unchanged (table : Table) (statement : Statement) :
    Executed table statement table := by
  refine .edited id (by simp) (fun row _ => ?_) rfl rfl rfl
  exact .same row

theorem updateWhere_executed {table : Table} {statement : Statement} {matching : Execution → Bool}
    {change : Execution → Execution}
    (each : ∀ row, matching row = true → RowStep table statement row (change row)) :
    Executed table statement
      { table with rows := TableLib.updateWhere matching change table.rows } := by
  refine .edited (fun row => if matching row then change row else row) rfl (fun row _ => ?_) rfl rfl
    rfl
  by_cases matched : matching row = true
  · simp only [matched, if_true]
    exact each row matched
  · simp only [matched]
    exact .same row

theorem sweeps_iff {jobName : String} {dbTime : Int} {row : Execution} :
    sweeps jobName dbTime row = true ↔ row.jobName = jobName ∧ row.stale dbTime = true := by
  simp only [sweeps, Bool.and_eq_true, decide_eq_true_eq]

theorem execute_cases (table : Table) (statement : Statement) :
    Executed table statement (execute table statement) := by
  cases statement with
  | elapse duration =>
      refine .edited id (by simp [execute]) (fun row _ => ?_) rfl rfl rfl
      exact .same row
  | claimInsert request =>
      simp only [execute, claimInsert]
      by_cases budget : request.job.maxAttempts < 1
      · rw [if_pos budget]
        exact .unchanged table _
      · rw [if_neg budget]
        by_cases taken : (table.rows.any fun row => row.key = request.key) = true
        · rw [if_pos taken]
          exact .unchanged table _
        · rw [if_neg taken]
          refine .inserted request rfl (by omega) (fun row member same => taken ?_) rfl rfl rfl rfl
          simp only [List.any_eq_true, decide_eq_true_eq]
          exact ⟨row, member, same⟩
  | claimSteal request =>
      simp only [execute, claimSteal]
      split
      · exact .unchanged table _
      · rename_i row found
        exact .stolen request row rfl (List.mem_of_find?_eq_some found) (List.find?_some found) rfl
          rfl rfl rfl
  | markStaleAsFailed jobName dbTime =>
      apply updateWhere_executed
      intro row matched
      obtain ⟨named, stale⟩ := sweeps_iff.mp matched
      exact .swept named stale
  | heartbeat id leaseToken staleTimeout => exact updateWhere_executed fun row held => .beat held
  | finishSuccess id leaseToken dbTime durationMs res =>
      simp only [execute, finishSuccess]
      split
      · exact .unchanged table _
      · exact updateWhere_executed fun row held => .succeeded held
  | finishFailure id leaseToken dbTime durationMs errorCode errorMsg nextRetryAt =>
      exact updateWhere_executed fun row held => .failed held

theorem execute_origin {table : Table} {statement : Statement} {row : Execution}
    (member : row ∈ (execute table statement).rows) :
    (∃ old ∈ table.rows, RowStep table statement old row) ∨
    (∃ request, statement = .claimInsert request ∧
      row = request.row table.nextId table.nextToken) ∨
    ∃ request, ∃ old ∈ table.rows, statement = .claimSteal request ∧
      row = old.retake request table.nextToken := by
  cases execute_cases table statement with
  | edited change rows each =>
      rw [rows] at member
      obtain ⟨old, listed, rfl⟩ := List.mem_map.mp member
      exact Or.inl ⟨old, listed, each old listed⟩
  | inserted request by_insert _ _ rows =>
      rw [rows, List.mem_append, List.mem_singleton] at member
      rcases member with listed | fresh
      · exact Or.inl ⟨row, listed, .same row⟩
      · exact Or.inr (Or.inl ⟨request, by_insert, fresh⟩)
  | stolen request taken by_steal _ _ rows =>
      rw [rows] at member
      rcases TableLib.mem_updateWhere member with ⟨listed, -⟩ | ⟨old, listed, -, retaken⟩
      · exact Or.inl ⟨row, listed, .same row⟩
      · exact Or.inr (Or.inr ⟨request, old, listed, by_steal, retaken⟩)

structure SameLease (old new : Execution) : Prop where
  id : new.id = old.id
  key : new.key = old.key
  attempt : new.attempt = old.attempt
  maxAttempts : new.maxAttempts = old.maxAttempts
  leaseToken : new.leaseToken = old.leaseToken

theorem RowStep.sameLease {table : Table} {statement : Statement} {old new : Execution}
    (step : RowStep table statement old new) : SameLease old new := by
  cases step <;> constructor <;> rfl

theorem heldBy_spec {id token : Nat} {row : Execution} (held : heldBy id token row = true) :
    row.id = id ∧ row.leaseToken = token ∧ row.status = .running := by
  simpa [heldBy, and_assoc] using held

theorem stale_running {row : Execution} {dbTime : Int} (stale : row.stale dbTime = true) :
    row.status = .running ∧ row.staleAfter < dbTime := by
  simpa [Execution.stale] using stale

theorem RowStep.settled {table : Table} {statement : Statement} {old new : Execution}
    (step : RowStep table statement old new) (settled : old.status ≠ .running) : new = old := by
  cases step with
  | same => rfl
  | swept _ stale => exact absurd (stale_running stale).1 settled
  | beat held => exact absurd (heldBy_spec held).2.2 settled
  | succeeded held => exact absurd (heldBy_spec held).2.2 settled
  | failed held => exact absurd (heldBy_spec held).2.2 settled

theorem settled_kept {table : Table} {row : Execution} (member : row ∈ table.rows)
    (settled : row.status ≠ .running) (free : ∀ request : ClaimRequest, request.takes row = false)
    (statement : Statement) : row ∈ (execute table statement).rows := by
  cases execute_cases table statement with
  | edited change rows each =>
      rw [rows]
      exact List.mem_map.mpr ⟨row, member, (each row member).settled settled⟩
  | inserted request _ _ _ rows =>
      rw [rows]
      exact List.mem_append_left _ member
  | stolen request taken _ _ _ rows =>
      rw [rows]
      refine List.mem_map.mpr ⟨row, member, ?_⟩
      rw [free request]
      rfl

end MulticaOS.Scheduler
