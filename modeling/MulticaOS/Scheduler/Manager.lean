import MulticaOS.Scheduler.Leases
import MulticaOS.Scheduler.Planning

/-!
Any number of replicas running `RunOnce` over one execution table.  A runner reads the
database clock once, at the start of its tick, and carries that reading through every job,
scope, plan and handler of the tick.  What the outside decides (job order, scopes, hook
answers, handler results, failing statements, crashes) comes with the event.
-/

namespace MulticaOS.Scheduler

inductive HandlerFault where
  | deadlineExceeded
  | canceled
  | leaseLost
  | handlerPanic
  | other
  deriving DecidableEq

structure HandlerError where
  fault : HandlerFault
  message : List UInt8

def classifyError (error : HandlerError) : String :=
  match error.fault with
  | .deadlineExceeded => "run_timeout"
  | .canceled => "canceled"
  | .leaseLost => "lease_lost"
  | .handlerPanic => "handler_panic"
  | .other => "handler_error"

/-- The two outer loops of a tick: the scopes left of this job, and the jobs after it. -/
structure Loop where
  job : Job
  scopes : List Scope
  jobs : List Job

structure Place where
  loop : Loop
  scope : Scope
  plans : List Int

inductive Phase where
  | idle
  | jobs (jobs : List Job)
  | sweep (loop : Loop)
  | scopes (loop : Loop)
  | plans (place : Place)
  | steal (place : Place) (planTime : Int)
  | handler (place : Place) (claim : Claim)
  | finish (place : Place) (claim : Claim) (dbTime : Int) (durationMs : Nat)
      (outcome : Except HandlerError HandlerResult)

structure Runner where
  now : Int
  phase : Phase

structure System where
  table : Table
  runners : Nat → Runner

inductive Event where
  | beginTick (order : List Job)
  | provideScopes (answer : Option (List Scope))
  | markStaleAsFailed (fails : Bool)
  | plansForTick (fails : Bool) (hook : Hook)
  | nextJob
  | nextScope
  | claimInsert (fails : Bool)
  | claimSteal (fails : Bool)
  | heartbeat
  | handlerReturns (outcome : Except HandlerError HandlerResult) (durationMs : Nat)
      (localClock : Option Int)
  | finish (fails : Bool)
  | crash

inductive Action where
  | elapse (duration : Nat)
  | runner (index : Nat) (event : Event)

def Place.request (place : Place) (runner : Runner) (runnerId : String) (planTime : Int) :
    ClaimRequest :=
  ⟨place.loop.job.spec, place.scope, planTime, runner.now, runnerId⟩

/-- `next_retry_at` after a failed attempt; the zero time is written as NULL. -/
def nextRetry (job : JobSpec) (attempt : Nat) (dbTime : Int) : Option Int :=
  if (attempt : Int) < job.maxAttempts && dbTime + job.retryDelay attempt ≠ 0 then
    some (dbTime + job.retryDelay attempt)
  else none

def issued (runnerId : String) (runner : Runner) : Event → Option Statement
  | .markStaleAsFailed false =>
      match runner.phase with
      | .sweep loop => some (.markStaleAsFailed loop.job.spec.name runner.now)
      | _ => none
  | .claimInsert false =>
      match runner.phase with
      | .plans ⟨loop, scope, planTime :: plans⟩ =>
          some (.claimInsert (Place.request ⟨loop, scope, plans⟩ runner runnerId planTime))
      | _ => none
  | .claimSteal false =>
      match runner.phase with
      | .steal place planTime => some (.claimSteal (place.request runner runnerId planTime))
      | _ => none
  | .heartbeat =>
      match runner.phase with
      | .handler place claim =>
          some (.heartbeat claim.id claim.leaseToken place.loop.job.spec.staleTimeout)
      | _ => none
  | .finish false =>
      match runner.phase with
      | .finish place claim dbTime durationMs (.error error) =>
          some (.finishFailure claim.id claim.leaseToken dbTime durationMs (classifyError error)
            error.message (nextRetry place.loop.job.spec claim.attempt dbTime))
      | .finish _ claim dbTime durationMs (.ok res) =>
          some (.finishSuccess claim.id claim.leaseToken dbTime durationMs res)
      | _ => none
  | _ => none

def control (registry : List Job) (table : Table) (runnerId : String) (runner : Runner)
    (event : Event) : Phase :=
  match event, runner.phase with
  | .beginTick order, .idle => if order.Perm registry then .jobs order else .idle
  | .nextJob, .jobs [] => .idle
  | .provideScopes none, .jobs (_ :: jobs) => .jobs jobs
  | .provideScopes (some scopes), .jobs (job :: jobs) => .sweep ⟨job, scopes, jobs⟩
  | .markStaleAsFailed _, .sweep loop => .scopes loop
  | .nextJob, .scopes ⟨_, [], jobs⟩ => .jobs jobs
  | .plansForTick true _, .scopes ⟨job, _ :: scopes, jobs⟩ => .scopes ⟨job, scopes, jobs⟩
  | .plansForTick false hook, .scopes ⟨job, scope :: scopes, jobs⟩ =>
      match plansForTick table job.spec scope runner.now hook with
      | .ok plans => .plans ⟨⟨job, scopes, jobs⟩, scope, plans⟩
      | .error _ => .scopes ⟨job, scopes, jobs⟩
  | .nextScope, .plans ⟨loop, _, []⟩ => .scopes loop
  | .claimInsert true, .plans ⟨loop, scope, _ :: plans⟩ => .plans ⟨loop, scope, plans⟩
  | .claimInsert false, .plans ⟨loop, scope, planTime :: plans⟩ =>
      match claimInsert table (Place.request ⟨loop, scope, plans⟩ runner runnerId planTime) with
      | .error _ => .plans ⟨loop, scope, plans⟩
      | .ok (_, some claim) => .handler ⟨loop, scope, plans⟩ claim
      | .ok (_, none) => .steal ⟨loop, scope, plans⟩ planTime
  | .claimSteal true, .steal place _ => .plans place
  | .claimSteal false, .steal place planTime =>
      match claimSteal table (place.request runner runnerId planTime) with
      | (_, some claim) => .handler place claim
      | (_, none) => .plans place
  | .handlerReturns outcome durationMs localClock, .handler place claim =>
      .finish place claim (localClock.getD table.now) durationMs outcome
  | .finish _, .finish place _ _ _ _ => .plans place
  | .crash, _ => .idle
  | _, phase => phase

def clock (table : Table) (runner : Runner) : Event → Int
  | .beginTick _ =>
      match runner.phase with
      | .idle => table.now
      | _ => runner.now
  | _ => runner.now

def step (registry : List Job) (system : System) : Action → System
  | .elapse duration => { system with table := execute system.table (.elapse duration) }
  | .runner index event =>
      let runner := system.runners index
      { table := match issued (toString index) runner event with
          | some statement => execute system.table statement
          | none => system.table
        runners := Function.update system.runners index
          ⟨clock system.table runner event,
            control registry system.table (toString index) runner event⟩ }

def initial (now : Int) : System := ⟨emptyTable now, fun _ => ⟨now, .idle⟩⟩

inductive Issues (runnerId : String) (runner : Runner) : Statement → Prop
  | sweep {loop : Loop} (phase : runner.phase = .sweep loop) :
      Issues runnerId runner (.markStaleAsFailed loop.job.spec.name runner.now)
  | claimInsert {loop : Loop} {scope : Scope} {planTime : Int} {plans : List Int}
      (phase : runner.phase = .plans ⟨loop, scope, planTime :: plans⟩) :
      Issues runnerId runner
        (.claimInsert (Place.request ⟨loop, scope, plans⟩ runner runnerId planTime))
  | claimSteal {place : Place} {planTime : Int} (phase : runner.phase = .steal place planTime) :
      Issues runnerId runner (.claimSteal (place.request runner runnerId planTime))
  | heartbeat {place : Place} {claim : Claim} (phase : runner.phase = .handler place claim) :
      Issues runnerId runner
        (.heartbeat claim.id claim.leaseToken place.loop.job.spec.staleTimeout)
  | finishFailure {place : Place} {claim : Claim} {dbTime : Int} {durationMs : Nat}
      {error : HandlerError} (phase : runner.phase = .finish place claim dbTime durationMs (.error error)) :
      Issues runnerId runner
        (.finishFailure claim.id claim.leaseToken dbTime durationMs (classifyError error) error.message
          (nextRetry place.loop.job.spec claim.attempt dbTime))
  | finishSuccess {place : Place} {claim : Claim} {dbTime : Int} {durationMs : Nat}
      {res : HandlerResult} (phase : runner.phase = .finish place claim dbTime durationMs (.ok res)) :
      Issues runnerId runner (.finishSuccess claim.id claim.leaseToken dbTime durationMs res)

theorem issued_issues {runnerId : String} {runner : Runner} {event : Event} {statement : Statement}
    (issues : issued runnerId runner event = some statement) :
    Issues runnerId runner statement := by
  unfold issued at issues
  split at issues
  · split at issues
    · rename_i phase
      cases issues
      exact .sweep phase
    · cases issues
  · split at issues
    · rename_i phase
      cases issues
      exact .claimInsert phase
    · cases issues
  · split at issues
    · rename_i phase
      cases issues
      exact .claimSteal phase
    · cases issues
  · split at issues
    · rename_i phase
      cases issues
      exact .heartbeat phase
    · cases issues
  · split at issues
    · rename_i phase
      cases issues
      exact .finishFailure phase
    · rename_i phase
      cases issues
      exact .finishSuccess phase
    · cases issues
  · cases issues

def Phase.jobsLeft : Phase → List Job
  | .idle => []
  | .jobs left => left
  | .sweep loop => loop.job :: loop.jobs
  | .scopes loop => loop.job :: loop.jobs
  | .plans place => place.loop.job :: place.loop.jobs
  | .steal place _ => place.loop.job :: place.loop.jobs
  | .handler place _ => place.loop.job :: place.loop.jobs
  | .finish place _ _ _ _ => place.loop.job :: place.loop.jobs

def Phase.holds : Phase → Option (Job × Claim)
  | .handler place claim => some (place.loop.job, claim)
  | .finish place claim _ _ _ => some (place.loop.job, claim)
  | _ => none

def Gains (table : Table) (runnerId : String) (runner : Runner) (event : Event) (job : Job)
    (claim : Claim) : Prop :=
  ∃ request, request.job = job.spec ∧
    ((issued runnerId runner event = some (.claimInsert request) ∧
        ∃ next, claimInsert table request = .ok (next, some claim)) ∨
      (issued runnerId runner event = some (.claimSteal request) ∧
        (claimSteal table request).2 = some claim))

structure Controlled (registry : List Job) (table : Table) (runnerId : String) (runner : Runner)
    (event : Event) (phase : Phase) : Prop where
  jobs : ∀ job ∈ phase.jobsLeft, job ∈ runner.phase.jobsLeft ∨ job ∈ registry
  holds : ∀ job claim, phase.holds = some (job, claim) →
    runner.phase.holds = some (job, claim) ∨ Gains table runnerId runner event job claim

theorem Controlled.free {registry : List Job} {table : Table} {runnerId : String} {runner : Runner}
    {event : Event} {phase : Phase} (jobs : phase.jobsLeft ⊆ runner.phase.jobsLeft)
    (free : phase.holds = none) : Controlled registry table runnerId runner event phase := by
  refine ⟨fun job member => Or.inl (jobs member), fun job claim held => ?_⟩
  rw [free] at held
  cases held

theorem control_controlled (registry : List Job) (table : Table) (runnerId : String)
    (runner : Runner) (event : Event) :
    Controlled registry table runnerId runner event
      (control registry table runnerId runner event) := by
  unfold control
  split
  case h_1 order phase =>
    split
    · rename_i same
      exact ⟨fun job member => Or.inr (same.mem_iff.mp member), by simp [Phase.holds]⟩
    · exact .free (by simp [Phase.jobsLeft]) rfl
  case h_8 hook job scope scopes jobs phase =>
    split
    · exact .free (by simp [Phase.jobsLeft, phase]) rfl
    · exact .free (by simp [Phase.jobsLeft, phase]) rfl
  case h_11 loop scope planTime plans phase =>
    have same : Phase.jobsLeft (.plans ⟨loop, scope, plans⟩) ⊆ runner.phase.jobsLeft := by
      simp [Phase.jobsLeft, phase]
    split
    · exact .free same rfl
    · rename_i next claim inserted
      refine ⟨fun job member => Or.inl (same member), fun job held gained => Or.inr ?_⟩
      cases gained
      exact ⟨_, rfl, Or.inl ⟨by simp [issued, phase], next, inserted⟩⟩
    · exact .free same rfl
  case h_13 place planTime phase =>
    have same : Phase.jobsLeft (.plans place) ⊆ runner.phase.jobsLeft := by
      simp [Phase.jobsLeft, phase]
    split
    · rename_i next claim stolen
      refine ⟨fun job member => Or.inl (same member), fun job held gained => Or.inr ?_⟩
      cases gained
      refine ⟨place.request runner runnerId planTime, rfl, Or.inr ⟨by simp [issued, phase], ?_⟩⟩
      rw [stolen]
    · exact .free same rfl
  case h_14 outcome durationMs localClock place claim phase =>
    refine ⟨fun job member => Or.inl ?_, fun job held gained => Or.inl ?_⟩
    · rw [phase]
      exact member
    · rw [phase]
      exact gained
  case h_16 => exact .free (by simp [Phase.jobsLeft]) rfl
  case h_17 => exact ⟨fun job member => Or.inl member, fun job claim held => Or.inl held⟩
  all_goals
    rename_i phase
    exact .free (by simp [Phase.jobsLeft, phase]) rfl

structure Coherent (registry : List Job) (system : System) : Prop where
  consistent : Consistent system.table
  clocks : ∀ index, (system.runners index).now ≤ system.table.now
  jobs : ∀ index, ∀ job ∈ (system.runners index).phase.jobsLeft, job ∈ registry
  claims : ∀ index job claim, (system.runners index).phase.holds = some (job, claim) →
    claim ∈ system.table.granted ∧
      ∀ row ∈ system.table.rows, row.id = claim.id → row.jobName = job.spec.name

theorem initial_coherent (registry : List Job) (now : Int) : Coherent registry (initial now) := by
  refine ⟨emptyTable_consistent now, fun index => ?_, ?_, ?_⟩
  · simp [initial, emptyTable]
  · simp [initial, Phase.jobsLeft]
  · simp [initial, Phase.holds]

def Statement.duration : Statement → Nat
  | .elapse duration => duration
  | _ => 0

theorem execute_now (table : Table) (statement : Statement) :
    (execute table statement).now = table.now + statement.duration := by
  have still : table.now = table.now + (0 : Nat) := by simp
  cases statement with
  | elapse duration => rfl
  | claimInsert request =>
      simp only [execute, claimInsert]
      split
      · rename_i next claim inserted
        split at inserted
        · cases inserted
        · split at inserted
          · cases inserted
            exact still
          · cases inserted
            exact still
      · exact still
  | claimSteal request =>
      simp only [execute, claimSteal]
      split <;> exact still
  | markStaleAsFailed jobName dbTime => exact still
  | heartbeat id leaseToken staleTimeout => exact still
  | finishSuccess id leaseToken dbTime durationMs res =>
      simp only [execute, finishSuccess]
      split <;> exact still
  | finishFailure id leaseToken dbTime durationMs errorCode errorMsg nextRetryAt => exact still

theorem execute_granted {table : Table} {claim : Claim} (granted : claim ∈ table.granted)
    (statement : Statement) : claim ∈ (execute table statement).granted := by
  cases execute_cases table statement with
  | edited _ _ _ same =>
      rw [same]
      exact granted
  | inserted _ _ _ _ _ grown =>
      rw [grown]
      exact List.mem_append_left _ granted
  | stolen _ _ _ _ _ _ grown =>
      rw [grown]
      exact List.mem_append_left _ granted

theorem execute_key {table : Table} {statement : Statement} {row : Execution}
    (member : row ∈ (execute table statement).rows) :
    (∃ old ∈ table.rows, old.id = row.id ∧ old.key = row.key) ∨ row.id = table.nextId := by
  rcases execute_origin member with ⟨old, listed, changed⟩ | ⟨request, -, rfl⟩ |
    ⟨request, old, listed, -, rfl⟩
  · have same := changed.sameLease
    exact Or.inl ⟨old, listed, same.id.symm, same.key.symm⟩
  · exact Or.inr rfl
  · exact Or.inl ⟨old, listed, rfl, rfl⟩

theorem claim_kept {table : Table} (consistent : Consistent table) {claim : Claim}
    {job : Job} (granted : claim ∈ table.granted)
    (named : ∀ row ∈ table.rows, row.id = claim.id → row.jobName = job.spec.name)
    (statement : Statement) :
    claim ∈ (execute table statement).granted ∧
      ∀ row ∈ (execute table statement).rows, row.id = claim.id → row.jobName = job.spec.name := by
  refine ⟨execute_granted granted statement, fun row member same => ?_⟩
  rcases execute_key member with ⟨old, listed, sameId, sameKey⟩ | fresh
  · have sameName : old.jobName = row.jobName := congrArg Key.jobName sameKey
    rw [← sameName]
    exact named old listed (sameId.trans same)
  · have known := consistent.known claim granted
    omega

def effect (system : System) : Action → Option Statement
  | .elapse duration => some (.elapse duration)
  | .runner index event => issued (toString index) (system.runners index) event

theorem step_table (registry : List Job) (system : System) (action : Action) :
    (∃ statement, effect system action = some statement ∧
      (step registry system action).table = execute system.table statement) ∨
    (effect system action = none ∧ (step registry system action).table = system.table) := by
  cases action with
  | elapse duration => exact Or.inl ⟨_, rfl, rfl⟩
  | runner index event =>
      simp only [step, effect]
      split
      · rename_i statement issues
        exact Or.inl ⟨statement, issues, rfl⟩
      · rename_i none
        exact Or.inr ⟨none, rfl⟩

theorem step_effect (registry : List Job) {system : System} {action : Action} {statement : Statement}
    (effects : effect system action = some statement) :
    (step registry system action).table = execute system.table statement := by
  rcases step_table registry system action with ⟨other, same, table⟩ | ⟨none, -⟩
  · rw [effects, Option.some.injEq] at same
    rw [table, same]
  · rw [effects] at none
    cases none

theorem step_now (registry : List Job) (system : System) (action : Action) :
    system.table.now ≤ (step registry system action).table.now := by
  rcases step_table registry system action with ⟨statement, -, table⟩ | ⟨-, table⟩
  · rw [table, execute_now]
    omega
  · rw [table]

theorem Gains.leased {table : Table} {runnerId : String} {runner : Runner} {event : Event} {job : Job}
    {claim : Claim} (gains : Gains table runnerId runner event job claim) :
    ∃ request statement, request.job = job.spec ∧ issued runnerId runner event = some statement ∧
      (∃ row ∈ (execute table statement).rows, Leased request claim row) ∧
      claim ∈ (execute table statement).granted := by
  obtain ⟨request, same, ⟨issues, next, won⟩ | ⟨issues, won⟩⟩ := gains
  · exact ⟨request, _, same, issues, claimInsert_leased won⟩
  · exact ⟨request, _, same, issues, claimSteal_leased won⟩

theorem Coherent.request_spec {registry : List Job} {system : System}
    (coherent : Coherent registry system) {index : Nat} {event : Event} {request : ClaimRequest}
    (claims : effect system (.runner index event) = some (.claimInsert request) ∨
      effect system (.runner index event) = some (.claimSteal request)) :
    (∃ job ∈ registry, request.job = job.spec) ∧ request.dbTime = (system.runners index).now := by
  rcases claims with issues | issues
  · cases issued_issues issues with
    | claimInsert phase =>
        refine ⟨⟨_, coherent.jobs index _ ?_, rfl⟩, rfl⟩
        rw [phase]
        exact List.mem_cons_self
  · cases issued_issues issues with
    | claimSteal phase =>
        refine ⟨⟨_, coherent.jobs index _ ?_, rfl⟩, rfl⟩
        rw [phase]
        exact List.mem_cons_self

theorem Coherent.step_claims {registry : List Job} {system : System}
    (coherent : Coherent registry system) {action : Action} {job : Job} {claim : Claim}
    (granted : claim ∈ system.table.granted)
    (named : ∀ row ∈ system.table.rows, row.id = claim.id → row.jobName = job.spec.name) :
    claim ∈ (step registry system action).table.granted ∧
      ∀ row ∈ (step registry system action).table.rows, row.id = claim.id →
        row.jobName = job.spec.name := by
  rcases step_table registry system action with ⟨statement, -, table⟩ | ⟨-, table⟩
  · rw [table]
    exact claim_kept coherent.consistent granted named statement
  · rw [table]
    exact ⟨granted, named⟩

theorem Coherent.step_consistent {registry : List Job} {system : System}
    (coherent : Coherent registry system) (action : Action) :
    Consistent (step registry system action).table := by
  rcases step_table registry system action with ⟨statement, -, table⟩ | ⟨-, table⟩
  · rw [table]
    exact coherent.consistent.execute statement
  · rw [table]
    exact coherent.consistent

theorem clock_le {table : Table} {runner : Runner} (event : Event) (earlier : runner.now ≤ table.now) :
    clock table runner event ≤ table.now := by
  unfold clock
  split
  · split
    · exact Int.le_refl _
    · exact earlier
  · exact earlier

theorem Coherent.gained {registry : List Job} {system : System}
    (coherent : Coherent registry system) {index : Nat} {event : Event} {job : Job} {claim : Claim}
    (gains : Gains system.table (toString index) (system.runners index) event job claim) :
    claim ∈ (Scheduler.step registry system (.runner index event)).table.granted ∧
      ∀ row ∈ (Scheduler.step registry system (.runner index event)).table.rows,
        row.id = claim.id → row.jobName = job.spec.name := by
  have consistent := coherent.step_consistent (.runner index event)
  obtain ⟨request, statement, sameJob, issues, ⟨row, member, leased⟩, granted⟩ := gains.leased
  have effects : effect system (.runner index event) = some statement := issues
  rw [step_effect registry effects] at consistent ⊢
  refine ⟨granted, fun other listed same => ?_⟩
  have sameRow : other = row :=
    List.inj_on_of_nodup_map consistent.ids listed member
      (same.trans (heldBy_spec leased.held).1.symm)
  rw [sameRow, leased.jobName, sameJob]

theorem Coherent.step {registry : List Job} {system : System} (coherent : Coherent registry system)
    (action : Action) : Coherent registry (step registry system action) := by
  have consistent := coherent.step_consistent action
  have later := step_now registry system action
  cases action with
  | elapse duration =>
      refine ⟨consistent, fun index => ?_, coherent.jobs, fun index job claim held => ?_⟩
      · exact Int.le_trans (coherent.clocks index) later
      · obtain ⟨granted, named⟩ := coherent.claims index job claim held
        exact coherent.step_claims granted named
  | runner index event =>
      have controlled := control_controlled registry system.table (toString index)
        (system.runners index) event
      refine ⟨consistent, fun other => ?_, fun other => ?_, fun other job claim held => ?_⟩
      · by_cases same : other = index
        · subst same
          simp only [Scheduler.step, Function.update_self]
          exact Int.le_trans (clock_le event (coherent.clocks other)) later
        · simp only [Scheduler.step, Function.update_of_ne same]
          exact Int.le_trans (coherent.clocks other) later
      · by_cases same : other = index
        · subst same
          simp only [Scheduler.step, Function.update_self]
          intro job member
          rcases controlled.jobs job member with earlier | registered
          · exact coherent.jobs other job earlier
          · exact registered
        · simp only [Scheduler.step, Function.update_of_ne same]
          exact coherent.jobs other
      · by_cases same : other = index
        · subst same
          simp only [Scheduler.step, Function.update_self] at held
          rcases controlled.holds job claim held with earlier | gained
          · obtain ⟨granted, named⟩ := coherent.claims other job claim earlier
            exact coherent.step_claims granted named
          · exact coherent.gained gained
        · simp only [Scheduler.step, Function.update_of_ne same] at held
          obtain ⟨granted, named⟩ := coherent.claims other job claim held
          exact coherent.step_claims granted named

theorem reachable_coherent (registry : List Job) (now : Int) (actions : List Action) :
    Coherent registry (RunLib.run (step registry) (initial now) actions) :=
  RunLib.run_invariant (initial_coherent registry now) (fun _ action coherent => coherent.step action)
    actions

def plainSpec (name : String) (runTimeout staleTimeout : Int) : JobSpec where
  name := name
  cadence := 3600 * second
  scheduleDelay := 0
  catchUpMode := .latestOnly
  catchUpWindow := 0
  maxPlansPerTick := 0
  runTimeout := runTimeout
  staleTimeout := staleTimeout
  heartbeatInterval := 10 * second
  allowStaleReentry := false
  maxAttempts := 2
  retryBackoff := []
  scopes := true
  plansForScope := false
  handler := true

def globalScope : Scope := ⟨"global", "global"⟩

def toClaim (index : Nat) : List Action :=
  [.runner index (.provideScopes (some [globalScope])), .runner index (.markStaleAsFailed false),
    .runner index (.plansForTick false fun _ => .ok [])]

end MulticaOS.Scheduler
