import MulticaOS.Scheduler.Executions

/-!
Lease safety of the execution table: whatever statements are issued in whatever order and
with whatever clock readings, every attempt of a plan is handed out once.
-/

namespace MulticaOS.Scheduler

def attemptsGranted (granted : List Claim) (id : Nat) : List Nat :=
  (granted.filter fun claim => claim.id = id).map Claim.attempt

structure Consistent (table : Table) : Prop where
  ids : (table.rows.map Execution.id).Nodup
  keys : (table.rows.map Execution.key).Nodup
  fresh : ∀ row ∈ table.rows, row.id < table.nextId
  known : ∀ claim ∈ table.granted, claim.id < table.nextId
  bounded : ∀ row ∈ table.rows, 1 ≤ row.attempt ∧ (row.attempt : Int) ≤ row.maxAttempts
  attempts : ∀ row ∈ table.rows,
    attemptsGranted table.granted row.id = List.range' 1 row.attempt
  tokens : (table.granted.map Claim.leaseToken).Nodup
  issued : ∀ claim ∈ table.granted, claim.leaseToken < table.nextToken
  holder : ∀ row ∈ table.rows, ⟨row.id, row.leaseToken, row.attempt⟩ ∈ table.granted

theorem emptyTable_consistent (now : Int) : Consistent (emptyTable now) := by
  constructor <;> simp [emptyTable]

theorem attemptsGranted_append (granted : List Claim) (claim : Claim) (id : Nat) :
    attemptsGranted (granted ++ [claim]) id =
      if claim.id = id then attemptsGranted granted id ++ [claim.attempt]
      else attemptsGranted granted id := by
  by_cases same : claim.id = id
  · simp [attemptsGranted, same]
  · simp [attemptsGranted, same]

theorem attemptsGranted_none {granted : List Claim} {id : Nat}
    (absent : ∀ claim ∈ granted, claim.id ≠ id) : attemptsGranted granted id = [] := by
  have none : granted.filter (fun claim => claim.id = id) = [] := by
    apply List.filter_eq_nil_iff.mpr
    intro claim member
    simpa using absent claim member
  simp [attemptsGranted, none]

section Steps

variable {table next : Table}

theorem Consistent.edited (consistent : Consistent table) {statement : Statement}
    (change : Execution → Execution) (rows : next.rows = table.rows.map change)
    (each : ∀ row ∈ table.rows, RowStep table statement row (change row))
    (granted : next.granted = table.granted) (nextId : next.nextId = table.nextId)
    (nextToken : next.nextToken = table.nextToken) : Consistent next := by
  have same : ∀ row ∈ table.rows, SameLease row (change row) := by
    intro row member
    exact (each row member).sameLease
  have from_table : ∀ row ∈ next.rows, ∃ old ∈ table.rows, SameLease old row := by
    intro row member
    rw [rows] at member
    obtain ⟨old, listed, rfl⟩ := List.mem_map.mp member
    exact ⟨old, listed, same old listed⟩
  constructor
  · have kept : (table.rows.map change).map Execution.id = table.rows.map Execution.id := by
      rw [List.map_map]
      exact List.map_congr_left fun row member => (same row member).id
    rw [rows, kept]
    exact consistent.ids
  · have kept : (table.rows.map change).map Execution.key = table.rows.map Execution.key := by
      rw [List.map_map]
      exact List.map_congr_left fun row member => (same row member).key
    rw [rows, kept]
    exact consistent.keys
  · intro row member
    obtain ⟨old, listed, lease⟩ := from_table row member
    rw [lease.id, nextId]
    exact consistent.fresh old listed
  · rw [granted, nextId]
    exact consistent.known
  · intro row member
    obtain ⟨old, listed, lease⟩ := from_table row member
    rw [lease.attempt, lease.maxAttempts]
    exact consistent.bounded old listed
  · intro row member
    obtain ⟨old, listed, lease⟩ := from_table row member
    rw [lease.id, lease.attempt, granted]
    exact consistent.attempts old listed
  · rw [granted]
    exact consistent.tokens
  · rw [granted, nextToken]
    exact consistent.issued
  · intro row member
    obtain ⟨old, listed, lease⟩ := from_table row member
    rw [lease.id, lease.leaseToken, lease.attempt, granted]
    exact consistent.holder old listed

theorem Consistent.grant (consistent : Consistent table) {claim : Claim}
    (token : claim.leaseToken = table.nextToken)
    (granted : next.granted = table.granted ++ [claim])
    (nextToken : next.nextToken = table.nextToken + 1) :
    (next.granted.map Claim.leaseToken).Nodup ∧
      ∀ claim ∈ next.granted, claim.leaseToken < next.nextToken := by
  constructor
  · rw [granted, List.map_append]
    refine List.nodup_append.mpr ⟨consistent.tokens, by simp, ?_⟩
    intro issued listed other added same
    obtain ⟨earlier, member, rfl⟩ := List.mem_map.mp listed
    have below := consistent.issued earlier member
    simp only [List.map_cons, List.map_nil, List.mem_singleton] at added
    omega
  · intro other member
    rw [granted, List.mem_append, List.mem_singleton] at member
    rw [nextToken]
    rcases member with listed | rfl
    · have below := consistent.issued other listed
      omega
    · omega

theorem Consistent.inserted (consistent : Consistent table) {request : ClaimRequest}
    (budget : 1 ≤ request.job.maxAttempts) (absent : ∀ row ∈ table.rows, row.key ≠ request.key)
    (rows : next.rows = table.rows ++ [request.row table.nextId table.nextToken])
    (granted : next.granted = table.granted ++ [⟨table.nextId, table.nextToken, 1⟩])
    (nextId : next.nextId = table.nextId + 1) (nextToken : next.nextToken = table.nextToken + 1) :
    Consistent next := by
  obtain ⟨tokens, issued⟩ := consistent.grant rfl granted nextToken
  have cases_of_mem : ∀ row ∈ next.rows,
      row ∈ table.rows ∨ row = request.row table.nextId table.nextToken := by
    intro row member
    rw [rows, List.mem_append, List.mem_singleton] at member
    exact member
  refine ⟨?_, ?_, ?_, ?_, ?_, ?_, tokens, issued, ?_⟩
  · rw [rows, List.map_append]
    refine List.nodup_append.mpr ⟨consistent.ids, by simp, ?_⟩
    intro id listed other added same
    obtain ⟨row, member, rfl⟩ := List.mem_map.mp listed
    have below := consistent.fresh row member
    simp only [List.map_cons, List.map_nil, List.mem_singleton, ClaimRequest.row] at added
    omega
  · rw [rows, List.map_append]
    refine List.nodup_append.mpr ⟨consistent.keys, by simp, ?_⟩
    intro key listed other added same
    obtain ⟨row, member, rfl⟩ := List.mem_map.mp listed
    simp only [List.map_cons, List.map_nil, List.mem_singleton] at added
    exact absent row member (same.trans added)
  · intro row member
    rw [nextId]
    rcases cases_of_mem row member with listed | rfl
    · have below := consistent.fresh row listed
      omega
    · exact Nat.lt_succ_self _
  · intro claim member
    rw [granted, List.mem_append, List.mem_singleton] at member
    rw [nextId]
    rcases member with listed | rfl
    · have below := consistent.known claim listed
      omega
    · exact Nat.lt_succ_self _
  · intro row member
    rcases cases_of_mem row member with listed | rfl
    · exact consistent.bounded row listed
    · exact ⟨Nat.le_refl 1, budget⟩
  · intro row member
    rw [granted, attemptsGranted_append]
    rcases cases_of_mem row member with listed | rfl
    · have below := consistent.fresh row listed
      rw [if_neg (by dsimp only; omega)]
      exact consistent.attempts row listed
    · have unknown : attemptsGranted table.granted table.nextId = [] := by
        apply attemptsGranted_none
        intro claim listed
        have below := consistent.known claim listed
        omega
      simp [ClaimRequest.row, unknown]
  · intro row member
    rw [granted]
    rcases cases_of_mem row member with listed | rfl
    · exact List.mem_append_left _ (consistent.holder row listed)
    · exact List.mem_append_right _ (by simp [ClaimRequest.row])

theorem Consistent.mem_stolen (consistent : Consistent table) {request : ClaimRequest}
    {row : Execution} (member : row ∈ table.rows) (takes : request.takes row = true)
    {change : Execution → Execution} {other : Execution} :
    other ∈ TableLib.updateWhere request.takes change table.rows ↔
      (other ∈ table.rows ∧ other ≠ row) ∨ other = change row := by
  apply TableLib.mem_updateWhere_one member
  intro listed inTable
  constructor
  · intro alsoTakes
    simp only [ClaimRequest.takes, Bool.and_eq_true, decide_eq_true_eq] at takes alsoTakes
    exact List.inj_on_of_nodup_map consistent.keys inTable member
      (alsoTakes.1.1.trans takes.1.1.symm)
  · rintro rfl
    exact takes

theorem takes_spec {request : ClaimRequest} {row : Execution} (takes : request.takes row = true) :
    row.key = request.key ∧ (row.attempt : Int) < row.maxAttempts ∧
      (row.retryDue request.dbTime = true ∨
        (row.stale request.dbTime = true ∧ request.job.allowStaleReentry = true)) := by
  simpa [ClaimRequest.takes, and_assoc] using takes

theorem Consistent.stolen (consistent : Consistent table) {request : ClaimRequest}
    {row : Execution} (member : row ∈ table.rows) (takes : request.takes row = true)
    (rows : next.rows = TableLib.updateWhere request.takes
      (Execution.retake request table.nextToken) table.rows)
    (granted : next.granted = table.granted ++ [⟨row.id, table.nextToken, row.attempt + 1⟩])
    (nextId : next.nextId = table.nextId) (nextToken : next.nextToken = table.nextToken + 1) :
    Consistent next := by
  obtain ⟨tokens, issued⟩ := consistent.grant rfl granted nextToken
  obtain ⟨-, room, -⟩ := takes_spec takes
  have cases_of_mem : ∀ other ∈ next.rows, (other ∈ table.rows ∧ other.id ≠ row.id) ∨
      other = row.retake request table.nextToken := by
    intro other listed
    rw [rows, consistent.mem_stolen member takes] at listed
    rcases listed with ⟨inTable, different⟩ | taken
    · refine Or.inl ⟨inTable, fun same => different ?_⟩
      exact List.inj_on_of_nodup_map consistent.ids inTable member same
    · exact Or.inr taken
  refine ⟨?_, ?_, ?_, ?_, ?_, ?_, tokens, issued, ?_⟩
  · have kept : ∀ other, (Execution.retake request table.nextToken other).id = other.id :=
      fun _ => rfl
    rw [rows, TableLib.map_updateWhere kept]
    exact consistent.ids
  · have kept : ∀ other, (Execution.retake request table.nextToken other).key = other.key :=
      fun _ => rfl
    rw [rows, TableLib.map_updateWhere kept]
    exact consistent.keys
  · intro other listed
    rw [nextId]
    rcases cases_of_mem other listed with ⟨inTable, -⟩ | rfl
    · exact consistent.fresh other inTable
    · exact consistent.fresh row member
  · intro claim listed
    rw [granted, List.mem_append, List.mem_singleton] at listed
    rw [nextId]
    rcases listed with earlier | rfl
    · exact consistent.known claim earlier
    · exact consistent.fresh row member
  · intro other listed
    rcases cases_of_mem other listed with ⟨inTable, -⟩ | rfl
    · exact consistent.bounded other inTable
    · simp only [Execution.retake]
      omega
  · intro other listed
    rw [granted, attemptsGranted_append]
    rcases cases_of_mem other listed with ⟨inTable, different⟩ | rfl
    · rw [if_neg fun same => different same.symm]
      exact consistent.attempts other inTable
    · have earlier := consistent.attempts row member
      simp only [Execution.retake, if_true]
      rw [earlier, List.range'_1_concat, Nat.add_comm]
  · intro other listed
    rw [granted]
    rcases cases_of_mem other listed with ⟨inTable, -⟩ | rfl
    · exact List.mem_append_left _ (consistent.holder other inTable)
    · exact List.mem_append_right _ (by simp [Execution.retake])

end Steps

theorem Consistent.execute {table : Table} (consistent : Consistent table) (statement : Statement) :
    Consistent (execute table statement) := by
  cases execute_cases table statement with
  | edited change rows each granted nextId nextToken =>
      exact consistent.edited change rows each granted nextId nextToken
  | inserted request _ budget absent rows granted nextId nextToken =>
      exact consistent.inserted budget absent rows granted nextId nextToken
  | stolen request row _ member takes rows granted nextId nextToken =>
      exact consistent.stolen member takes rows granted nextId nextToken

structure Leased (request : ClaimRequest) (claim : Claim) (row : Execution) : Prop where
  held : heldBy claim.id claim.leaseToken row = true
  jobName : row.jobName = request.job.name
  heartbeatAt : row.heartbeatAt = request.dbTime
  staleAfter : row.staleAfter = request.dbTime + leaseInterval request.job.staleTimeout

theorem claimInsert_leased {table next : Table} {request : ClaimRequest} {claim : Claim}
    (won : claimInsert table request = .ok (next, some claim)) :
    (∃ row ∈ (execute table (.claimInsert request)).rows, Leased request claim row) ∧
      claim ∈ (execute table (.claimInsert request)).granted := by
  have stored : execute table (.claimInsert request) = next := by simp [execute, won]
  rw [stored]
  rw [claimInsert] at won
  split at won
  · cases won
  · split at won
    · cases won
    · cases won
      refine ⟨⟨request.row table.nextId table.nextToken, by simp, ?_⟩, by simp⟩
      exact ⟨by simp [heldBy, ClaimRequest.row], rfl, rfl, rfl⟩

theorem claimSteal_leased {table : Table} {request : ClaimRequest} {claim : Claim}
    (won : (claimSteal table request).2 = some claim) :
    (∃ row ∈ (execute table (.claimSteal request)).rows, Leased request claim row) ∧
      claim ∈ (execute table (.claimSteal request)).granted := by
  simp only [execute]
  rw [claimSteal] at won ⊢
  split at won
  · cases won
  · rename_i row found
    cases won
    have takes := List.find?_some found
    have member := List.mem_of_find?_eq_some found
    refine ⟨⟨row.retake request table.nextToken, ?_, ?_⟩, by simp⟩
    · exact List.mem_map.mpr ⟨row, member, if_pos takes⟩
    · have key := (takes_spec takes).1
      exact ⟨by simp [heldBy, Execution.retake], congrArg Key.jobName key, rfl, rfl⟩

theorem tryClaim_executes {table next : Table} {request : ClaimRequest} {outcome : ClaimOutcome}
    (done : tryClaim table request = .ok (next, outcome)) :
    (next = RunLib.run execute table [.claimInsert request] ∨
      next = RunLib.run execute table [.claimInsert request, .claimSteal request]) ∧
    ∀ claim, outcome = .won claim ∨ outcome = .stole claim → claim ∈ next.granted := by
  rw [tryClaim] at done
  split at done
  · cases done
  · rename_i inserted claim inserting
    have executed : execute table (.claimInsert request) = inserted := by simp [execute, inserting]
    have granted := (claimInsert_leased inserting).2
    rw [executed] at granted
    simp only [Except.ok.injEq, Prod.mk.injEq] at done
    obtain ⟨rfl, rfl⟩ := done
    refine ⟨Or.inl executed.symm, ?_⟩
    rintro other (won | stole)
    · cases won
      exact granted
    · cases stole
  · rename_i inserted inserting
    split at done
    · rename_i taken claim stealing
      have granted := (claimSteal_leased (congrArg Prod.snd stealing)).2
      simp only [execute, stealing] at granted
      simp only [Except.ok.injEq, Prod.mk.injEq] at done
      obtain ⟨rfl, rfl⟩ := done
      refine ⟨Or.inr (by simp [execute, inserting, stealing]), ?_⟩
      rintro other (won | stole)
      · cases won
      · cases stole
        exact granted
    · rename_i taken stealing
      simp only [Except.ok.injEq, Prod.mk.injEq] at done
      obtain ⟨rfl, rfl⟩ := done
      refine ⟨Or.inr (by simp [execute, inserting, stealing]), ?_⟩
      rintro other (won | stole)
      · cases won
      · cases stole

theorem success_kept {table : Table} {row : Execution} (member : row ∈ table.rows)
    (success : row.status = .success) (statement : Statement) :
    row ∈ (execute table statement).rows := by
  apply settled_kept member (by simp [success])
  intro request
  simp [ClaimRequest.takes, Execution.retryDue, Execution.stale, success]

theorem success_run {table : Table} {row : Execution} (member : row ∈ table.rows)
    (success : row.status = .success) (statements : List Statement) :
    row ∈ (RunLib.run execute table statements).rows := by
  induction statements generalizing table with
  | nil => exact member
  | cons statement rest ih => exact ih (success_kept member success statement)

def Fenced (table : Table) (id leaseToken : Nat) : Prop :=
  ∀ row ∈ table.rows, heldBy id leaseToken row = false

theorem updateHeld_fenced {table : Table} {id leaseToken : Nat} (fenced : Fenced table id leaseToken)
    (change : Execution → Execution) :
    updateHeld table id leaseToken change = (table, .error .leaseLost) := by
  have none : table.rows.countP (heldBy id leaseToken) = 0 := by
    apply List.countP_eq_zero.mpr
    intro row member
    simp [fenced row member]
  rw [updateHeld, TableLib.updateWhere_none fenced, none]
  rfl

structure LeaseSafe (table : Table) : Prop where
  oneRow : ∀ left ∈ table.rows, ∀ right ∈ table.rows, left.key = right.key → left = right
  bounded : ∀ row ∈ table.rows, 1 ≤ row.attempt ∧ (row.attempt : Int) ≤ row.maxAttempts
  oneToken : ∀ row ∈ table.rows, ∀ attempt, 1 ≤ attempt → attempt ≤ row.attempt →
    ∃ token, ∀ other, ⟨row.id, other, attempt⟩ ∈ table.granted ↔ other = token
  starts : ∀ row ∈ table.rows,
    ((table.granted.filter fun claim => claim.id = row.id).length : Int) ≤ row.maxAttempts
  holder : ∀ row ∈ table.rows, ⟨row.id, row.leaseToken, row.attempt⟩ ∈ table.granted
  distinct : (table.granted.map Claim.leaseToken).Nodup
  absorbing : ∀ row ∈ table.rows, row.status = .success →
    ∀ statements, row ∈ (RunLib.run execute table statements).rows
  beat : ∀ id leaseToken staleTimeout, Fenced table id leaseToken →
    heartbeat table id leaseToken staleTimeout = (table, .error .leaseLost)
  failure : ∀ id leaseToken dbTime durationMs errorCode errorMsg nextRetryAt,
    Fenced table id leaseToken →
      finishFailure table id leaseToken dbTime durationMs errorCode errorMsg nextRetryAt =
        (table, .error .leaseLost)
  success : ∀ id leaseToken dbTime durationMs res json, Fenced table id leaseToken →
    encodeResult res.result = .ok json →
      finishSuccess table id leaseToken dbTime durationMs res = (table, .error .leaseLost)
  unencoded : ∀ id leaseToken dbTime durationMs res failure,
    encodeResult res.result = .error failure →
      finishSuccess table id leaseToken dbTime durationMs res = (table, .error failure)

theorem Consistent.oneToken {table : Table} (consistent : Consistent table) {row : Execution}
    (member : row ∈ table.rows) {attempt : Nat} (positive : 1 ≤ attempt)
    (reached : attempt ≤ row.attempt) :
    ∃ token, ∀ other, ⟨row.id, other, attempt⟩ ∈ table.granted ↔ other = token := by
  have attempts := consistent.attempts row member
  have listed : attempt ∈ attemptsGranted table.granted row.id := by
    rw [attempts, List.mem_range'_1]
    omega
  obtain ⟨claim, kept, rfl⟩ := List.mem_map.mp listed
  have filtered := List.mem_filter.mp kept
  have same : claim.id = row.id := by simpa using filtered.2
  refine ⟨claim.leaseToken, fun other => ⟨fun granted => ?_, fun isToken => ?_⟩⟩
  · have distinct : (attemptsGranted table.granted row.id).Nodup := by
      rw [attempts]
      exact List.nodup_range'
    have otherKept : (⟨row.id, other, claim.attempt⟩ : Claim) ∈
        table.granted.filter fun claim => claim.id = row.id := by
      simp [List.mem_filter, granted]
    have equal := List.inj_on_of_nodup_map distinct otherKept kept rfl
    rw [← equal]
  · rw [isToken, ← same]
    exact filtered.1

theorem Consistent.leaseSafe {table : Table} (consistent : Consistent table) : LeaseSafe table where
  oneRow left leftMember right rightMember same :=
    List.inj_on_of_nodup_map consistent.keys leftMember rightMember same
  bounded := consistent.bounded
  oneToken row member attempt positive reached := consistent.oneToken member positive reached
  starts row member := by
    have attempts := congrArg List.length (consistent.attempts row member)
    rw [attemptsGranted, List.length_map, List.length_range'] at attempts
    rw [attempts]
    exact (consistent.bounded row member).2
  holder := consistent.holder
  distinct := consistent.tokens
  absorbing row member success statements := success_run member success statements
  beat id leaseToken staleTimeout fenced := updateHeld_fenced fenced _
  failure id leaseToken dbTime durationMs errorCode errorMsg nextRetryAt fenced :=
    updateHeld_fenced fenced _
  success id leaseToken dbTime durationMs res json fenced encoded := by
    rw [finishSuccess, encoded]
    exact updateHeld_fenced fenced _
  unencoded id leaseToken dbTime durationMs res failure refused := by
    rw [finishSuccess, refused]

end MulticaOS.Scheduler
