import MulticaOS.Scheduler.LiveLeases

/-!
Jobs that must not be re-entered after a stale lease.  The flag keeps another runner from
stealing such a lease, but the sweep that closes it leaves a `FAILED` row, and a `FAILED`
row with attempts left is claimed again.
-/

namespace MulticaOS.Scheduler

structure ClosedStale (registry : Registry) (row : Execution) : Prop where
  nonReentrant : ∃ job ∈ registry.jobs, job.spec.name = row.jobName ∧
    job.spec.allowStaleReentry = false
  failed : row.status = .failed
  errorCode : row.errorCode = some staleTimeoutCode

def SweepsExhausted (registry : Registry) (system : System) (action : Action) : Prop :=
  ∀ jobName dbTime, effect system action = some (.markStaleAsFailed jobName dbTime) →
    (∃ job ∈ registry.jobs, job.spec.name = jobName ∧ job.spec.allowStaleReentry = false) →
    ∀ row ∈ system.table.rows, sweeps jobName dbTime row = true → row.maxAttempts ≤ row.attempt

def Exhausted (registry : Registry) (system : System) : Prop :=
  ∀ row ∈ system.table.rows, ClosedStale registry row → row.maxAttempts ≤ row.attempt

theorem classifyError_ne (error : HandlerError) :
    (if classifyError error = "" then "handler_error" else classifyError error) ≠
      staleTimeoutCode := by
  unfold classifyError
  split <;> decide

section Steps

variable {registry : Registry} {system : System} {action : Action}

theorem closedStale_step {row : Execution}
    (member : row ∈ (step registry.jobs system action).table.rows)
    (closed : ClosedStale registry row) :
    row ∈ system.table.rows ∨
      ∃ old ∈ system.table.rows, ∃ jobName dbTime,
        effect system action = some (.markStaleAsFailed jobName dbTime) ∧
        sweeps jobName dbTime old = true ∧ row = old.sweep dbTime := by
  rcases step_table registry.jobs system action with ⟨statement, effects, table⟩ | ⟨-, table⟩
  · rw [table] at member
    rcases execute_origin member with ⟨old, listed, changed⟩ | ⟨request, -, rfl⟩ |
      ⟨request, old, listed, -, rfl⟩
    · cases changed with
      | same => exact Or.inl listed
      | swept named stale =>
          exact Or.inr ⟨old, listed, _, _, effects, sweeps_iff.mpr ⟨named, stale⟩, rfl⟩
      | beat held =>
          have running := (heldBy_spec held).2.2
          have failed : old.status = .failed := closed.failed
          rw [running] at failed
          cases failed
      | succeeded => cases closed.failed
      | failed =>
          cases action with
          | elapse duration => cases effects
          | runner index event =>
              cases issued_issues effects with
              | finishFailure phase =>
                  have code := closed.errorCode
                  simp only [Execution.fail, Option.some.injEq] at code
                  exact absurd code (classifyError_ne _)
    · cases closed.failed
    · cases closed.failed
  · rw [table] at member
    exact Or.inl member

theorem Exhausted.step (exhausted : Exhausted registry system)
    (allowed : SweepsExhausted registry system action) :
    Exhausted registry (step registry.jobs system action) := by
  intro row member closed
  rcases closedStale_step member closed with listed | ⟨old, listed, jobName, dbTime, effects, swept, rfl⟩
  · exact exhausted row listed closed
  · have named : old.jobName = jobName := (sweeps_iff.mp swept).1
    have nonReentrant := closed.nonReentrant
    simp only [Execution.sweep, named] at nonReentrant
    exact allowed jobName dbTime effects nonReentrant old listed swept

theorem closedStale_kept {row : Execution} (member : row ∈ system.table.rows)
    (closed : ClosedStale registry row) (spent : row.maxAttempts ≤ row.attempt) :
    row ∈ (step registry.jobs system action).table.rows := by
  have settled : row.status ≠ .running := by simp [closed.failed]
  rcases step_table registry.jobs system action with ⟨statement, -, table⟩ | ⟨-, table⟩
  · rw [table]
    apply settled_kept member settled
    intro request
    have full : ¬ (row.attempt : Int) < row.maxAttempts := by omega
    simp [ClaimRequest.takes, full]
  · rw [table]
    exact member

theorem closedStale_granted (coherent : Coherent registry.jobs system) {row : Execution}
    (member : row ∈ system.table.rows) (spent : row.maxAttempts ≤ row.attempt) :
    (step registry.jobs system action).table.granted.filter (fun claim => claim.id = row.id) =
      system.table.granted.filter fun claim => claim.id = row.id := by
  rcases step_table registry.jobs system action with ⟨statement, -, table⟩ | ⟨-, table⟩
  · rw [table]
    cases execute_cases system.table statement with
    | edited _ _ _ granted => rw [granted]
    | inserted request _ _ _ _ granted =>
        have earlier := coherent.consistent.fresh row member
        have other : system.table.nextId ≠ row.id := by omega
        rw [granted, List.filter_append]
        simp [other]
    | stolen request taken _ listed takes _ granted =>
        have room := (takes_spec takes).2.1
        have other : taken.id ≠ row.id := by
          intro same
          rw [List.inj_on_of_nodup_map coherent.consistent.ids listed member same] at room
          omega
        rw [granted, List.filter_append]
        simp [other]
  · rw [table]

end Steps

/-- Between the two states the row was neither claimed nor written, and every handler that
runs for it later runs under a claim made earlier. -/
structure LeftClosed (row : Execution) (before after : System) : Prop where
  kept : row ∈ after.table.rows
  claims : after.table.granted.filter (fun claim => claim.id = row.id) =
    before.table.granted.filter fun claim => claim.id = row.id
  handlers : ∀ index place claim, (after.runners index).phase = .handler place claim →
    claim.id = row.id → claim ∈ before.table.granted

theorem leftClosed_of_claims {registry : Registry} {before after : System} {row : Execution}
    (coherent : Coherent registry.jobs after) (kept : row ∈ after.table.rows)
    (claims : after.table.granted.filter (fun claim => claim.id = row.id) =
      before.table.granted.filter fun claim => claim.id = row.id) :
    LeftClosed row before after := by
  refine ⟨kept, claims, fun index place claim running same => ?_⟩
  obtain ⟨granted, -⟩ := coherent.claims index place.loop.job claim (by simp [running, Phase.holds])
  have listed : claim ∈ after.table.granted.filter fun claim => claim.id = row.id := by
    simpa [same] using granted
  rw [claims] at listed
  exact List.mem_of_mem_filter listed

theorem closedStale_run {registry : Registry} {system : System} {row : Execution}
    {actions : List Action} (coherent : Coherent registry.jobs system)
    (exhausted : Exhausted registry system)
    (every : RunLib.Every (step registry.jobs) (SweepsExhausted registry) system actions)
    (member : row ∈ system.table.rows) (closed : ClosedStale registry row) :
    LeftClosed row system (RunLib.run (step registry.jobs) system actions) := by
  have spent := exhausted row member closed
  induction actions generalizing system with
  | nil => exact leftClosed_of_claims coherent member rfl
  | cons action rest ih =>
      have later := coherent.step action
      have kept : row ∈ (step registry.jobs system action).table.rows :=
        closedStale_kept member closed spent
      have left := ih later (exhausted.step every.1) every.2 kept
      have claims := left.claims.trans (closedStale_granted coherent member spent)
      have finished := RunLib.run_invariant later (fun _ action coherent => coherent.step action) rest
      exact leftClosed_of_claims finished left.kept claims

/-- In every run whose sweeps of non-reentrant jobs close only rows without attempts left, a
closed row is never claimed and never run again. -/
theorem closed_rows_never_reentered (registry : Registry) (now : Int) (front back : List Action)
    (every : RunLib.Every (step registry.jobs) (SweepsExhausted registry) (initial now)
      (front ++ back))
    {row : Execution}
    (member : row ∈ (RunLib.run (step registry.jobs) (initial now) front).table.rows)
    (closed : ClosedStale registry row) :
    LeftClosed row (RunLib.run (step registry.jobs) (initial now) front)
      (RunLib.run (step registry.jobs) (initial now) (front ++ back)) := by
  obtain ⟨everyFront, everyBack⟩ := RunLib.every_append.mp every
  have start : Exhausted registry (initial now) := by
    intro row member
    cases member
  have exhausted := (RunLib.always_of_invariant start
    (fun _ _ exhausted allowed => exhausted.step allowed) everyFront).last
  rw [RunLib.run_append]
  exact closedStale_run (reachable_coherent registry.jobs now front) exhausted everyBack member
    closed

/-! A single attempt is enough for the condition to hold throughout. -/

def Budgeted (registry : Registry) (system : System) : Prop :=
  ∀ row ∈ system.table.rows, ∃ job ∈ registry.jobs, job.spec.name = row.jobName ∧
    job.spec.maxAttempts = row.maxAttempts

theorem Budgeted.step {registry : Registry} {system : System}
    (coherent : Coherent registry.jobs system) (budgeted : Budgeted registry system)
    (action : Action) : Budgeted registry (step registry.jobs system action) := by
  intro row member
  rcases step_table registry.jobs system action with ⟨statement, effects, table⟩ | ⟨-, table⟩
  · rw [table] at member
    rcases execute_origin member with ⟨old, listed, changed⟩ | ⟨request, rfl, rfl⟩ |
      ⟨request, old, listed, -, rfl⟩
    · have same := changed.sameLease
      have sameName : row.jobName = old.jobName := congrArg Key.jobName same.key
      rw [sameName, same.maxAttempts]
      exact budgeted old listed
    · cases action with
      | elapse duration => cases effects
      | runner index event =>
          obtain ⟨⟨job, registered, same⟩, -⟩ := coherent.request_spec (Or.inl effects)
          refine ⟨job, registered, ?_, ?_⟩
          · rw [← same]
            rfl
          · rw [← same]
            rfl
    · exact budgeted old listed
  · rw [table] at member
    exact budgeted row member

theorem sweepsExhausted_of_single {registry : Registry}
    (single : ∀ job ∈ registry.jobs, job.spec.allowStaleReentry = false → job.spec.maxAttempts = 1)
    (now : Int) (actions : List Action) :
    RunLib.Every (step registry.jobs) (SweepsExhausted registry) (initial now) actions := by
  apply @RunLib.every_of_preserved _ _ _
    fun system => Coherent registry.jobs system ∧ Budgeted registry system
  · refine ⟨initial_coherent registry.jobs now, fun row member => ?_⟩
    cases member
  · intro system action ⟨coherent, budgeted⟩
    exact ⟨coherent.step action, budgeted.step coherent action⟩
  · rintro system action ⟨coherent, budgeted⟩ jobName dbTime - ⟨job, registered, named, once⟩ row
      member swept
    obtain ⟨other, listed, sameName, sameBudget⟩ := budgeted row member
    have sweptName : row.jobName = jobName := (sweeps_iff.mp swept).1
    have same : other = job :=
      registry.same_job listed registered (sameName.trans (sweptName.trans named.symm))
    rw [same, single job registered once] at sameBudget
    have started := (coherent.consistent.bounded row member).1
    omega

/-! A lease of a job with one attempt, and a lease of a job with two. -/

def onceJob : Job :=
  ⟨{ plainSpec "once" (30 * second) (60 * second) with maxAttempts := 1 }, by decide⟩

def onlyOnce : Registry := ⟨[onceJob], by decide⟩

def onlyQuick : Registry := ⟨[quickJob], by decide⟩

def abandoned (job : Job) : List Action :=
  [.runner 0 (.beginTick [job])] ++ toClaim 0 ++
    [.runner 0 (.claimInsert false), .runner 0 .crash, .elapse 61000000,
      .runner 1 (.beginTick [job]), .runner 1 (.provideScopes (some [globalScope])),
      .runner 1 (.markStaleAsFailed false)]

def reclaim : List Action :=
  [.runner 1 (.plansForTick false fun _ => .ok []), .runner 1 (.claimInsert false),
    .runner 1 (.claimSteal false)]

def sweptRow (job : Job) : Execution :=
  (ClaimRequest.row ⟨job.spec, globalScope, 0, 0, "0"⟩ 0 0).sweep 61000000

theorem sweptRow_closed {registry : Registry} {job : Job} (registered : job ∈ registry.jobs)
    (once : job.spec.allowStaleReentry = false) : ClosedStale registry (sweptRow job) :=
  ⟨⟨job, registered, rfl, once⟩, rfl, rfl⟩

theorem closed_rows_never_reentered_once :
    LeftClosed (sweptRow onceJob)
      (RunLib.run (step onlyOnce.jobs) (initial 0) (abandoned onceJob))
      (RunLib.run (step onlyOnce.jobs) (initial 0) (abandoned onceJob ++ reclaim)) := by
  apply closed_rows_never_reentered onlyOnce
  · exact sweepsExhausted_of_single (by decide) 0 _
  · rw [show (RunLib.run (step onlyOnce.jobs) (initial 0) (abandoned onceJob)).table.rows =
      [sweptRow onceJob] from rfl]
    exact List.mem_singleton_self _
  · exact sweptRow_closed (by decide) rfl

/-- The same tick that closes the row claims it again, as attempt 2. -/
theorem closed_row_reentered :
    sweptRow quickJob ∈
        (RunLib.run (step onlyQuick.jobs) (initial 0) (abandoned quickJob)).table.rows ∧
      ClosedStale onlyQuick (sweptRow quickJob) ∧
      ¬ LeftClosed (sweptRow quickJob)
        (RunLib.run (step onlyQuick.jobs) (initial 0) (abandoned quickJob))
        (RunLib.run (step onlyQuick.jobs) (initial 0) (abandoned quickJob ++ reclaim)) := by
  have rows : (RunLib.run (step onlyQuick.jobs) (initial 0) (abandoned quickJob)).table.rows =
      [sweptRow quickJob] := rfl
  refine ⟨?_, sweptRow_closed (by decide) rfl, fun left => ?_⟩
  · rw [rows]
    exact List.mem_singleton_self _
  have claims := left.claims
  revert claims
  decide

end MulticaOS.Scheduler
