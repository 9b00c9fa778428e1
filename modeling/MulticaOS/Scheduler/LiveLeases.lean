import MulticaOS.Scheduler.Manager

/-!
Whether a claimed lease can be taken away before it has gone without a heartbeat for its
whole length.  A claim writes `stale_after` from the clock its tick began with, so a lease
is as much shorter as the claim is later than that reading.
-/

namespace MulticaOS.Scheduler

structure Registry where
  jobs : List Job
  distinct : (jobs.map fun job => job.spec.name).Nodup

def Statement.takesLeases : Statement → Bool
  | .markStaleAsFailed _ _ => true
  | .claimInsert _ => true
  | .claimSteal _ => true
  | _ => false

/-- This event of the runner is a `tryClaim` statement that returns the claim. -/
inductive ClaimedBy (system : System) (index : Nat) (event : Event) (request : ClaimRequest)
    (claim : Claim) : Prop
  | inserted {next : Table}
      (issues : effect system (.runner index event) = some (.claimInsert request))
      (won : claimInsert system.table request = .ok (next, some claim))
  | stolen
      (issues : effect system (.runner index event) = some (.claimSteal request))
      (won : (claimSteal system.table request).2 = some claim)

/-- Whatever follows, no other runner's sweep or claim changes the row under this lease until
it has gone without a heartbeat for its length. -/
def LeaseKept (registry : Registry) (holder : Nat) (claim : Claim) (claimedAt lease : Int)
    (system : System) : Prop :=
  ∀ actions other event statement row, other ≠ holder →
    effect (RunLib.run (step registry.jobs) system actions) (.runner other event) = some statement →
    statement.takesLeases = true →
    row ∈ (RunLib.run (step registry.jobs) system actions).table.rows →
    heldBy claim.id claim.leaseToken row = true →
    row ∉ (step registry.jobs (RunLib.run (step registry.jobs) system actions)
      (.runner other event)).table.rows →
    max claimedAt row.heartbeatAt + lease ≤
      (RunLib.run (step registry.jobs) system actions).table.now

structure Guarded (registry : Registry) (job : Job) (claim : Claim) (claimedAt : Int)
    (system : System) : Prop extends Coherent registry.jobs system where
  granted : claim ∈ system.table.granted
  named : ∀ row ∈ system.table.rows, row.id = claim.id → row.jobName = job.spec.name
  past : claimedAt ≤ system.table.now
  ends : ∀ row ∈ system.table.rows, heldBy claim.id claim.leaseToken row = true →
    max claimedAt row.heartbeatAt + leaseInterval job.spec.staleTimeout ≤ row.staleAfter + 1

section Guarded

variable {registry : Registry} {job : Job} {claim : Claim} {claimedAt : Int} {system : System}

theorem Registry.same_job (registry : Registry) {left right : Job} (leftMember : left ∈ registry.jobs)
    (rightMember : right ∈ registry.jobs) (same : left.spec.name = right.spec.name) : left = right :=
  List.inj_on_of_nodup_map registry.distinct leftMember rightMember same

theorem Guarded.beat (guarded : Guarded registry job claim claimedAt system)
    (registered : job ∈ registry.jobs) {action : Action} {id token : Nat} {staleTimeout : Int}
    (effects : effect system action = some (.heartbeat id token staleTimeout)) {row : Execution}
    (member : row ∈ system.table.rows) (held : heldBy id token row = true)
    (sameId : id = claim.id) : staleTimeout = job.spec.staleTimeout := by
  cases action with
  | elapse duration => cases effects
  | runner index event =>
      cases issued_issues effects with
      | heartbeat phase =>
          rename_i place beating
          have jobs := guarded.jobs index place.loop.job (by simp [phase, Phase.jobsLeft])
          obtain ⟨-, byHolder⟩ := guarded.claims index place.loop.job beating
            (by simp [phase, Phase.holds])
          have rowId := (heldBy_spec held).1
          have sameName : place.loop.job.spec.name = job.spec.name := by
            rw [← byHolder row member rowId]
            exact guarded.named row member (rowId.trans sameId)
          rw [registry.same_job jobs registered sameName]

theorem Guarded.ends_execute (guarded : Guarded registry job claim claimedAt system)
    (registered : job ∈ registry.jobs) {action : Action} {statement : Statement}
    (effects : effect system action = some statement) :
    ∀ row ∈ (execute system.table statement).rows, heldBy claim.id claim.leaseToken row = true →
      max claimedAt row.heartbeatAt + leaseInterval job.spec.staleTimeout ≤ row.staleAfter + 1 := by
  intro row member held
  obtain ⟨rowId, rowToken, running⟩ := heldBy_spec held
  have issuedBefore := guarded.consistent.issued claim guarded.granted
  rcases execute_origin member with ⟨old, listed, changed⟩ | ⟨request, -, rfl⟩ |
    ⟨request, old, listed, -, rfl⟩
  · cases changed with
    | same => exact guarded.ends row listed held
    | swept => cases running
    | @beat id token staleTimeout _ beats =>
        have sameId : id = claim.id := (heldBy_spec beats).1.symm.trans rowId
        rw [guarded.beat registered effects listed beats sameId]
        have past := guarded.past
        simp only [Execution.beat]
        omega
    | succeeded => cases running
    | failed => cases running
  -- a claim made later has a later token
  · simp only [ClaimRequest.row] at rowToken
    omega
  · simp only [Execution.retake] at rowToken
    omega

theorem Guarded.step (guarded : Guarded registry job claim claimedAt system)
    (registered : job ∈ registry.jobs) (action : Action) :
    Guarded registry job claim claimedAt (step registry.jobs system action) := by
  obtain ⟨granted, named⟩ := guarded.step_claims guarded.granted guarded.named
  refine ⟨guarded.toCoherent.step action, granted, named, ?_, ?_⟩
  · exact Int.le_trans guarded.past (step_now registry.jobs system action)
  · rcases step_table registry.jobs system action with ⟨statement, effects, table⟩ | ⟨-, table⟩
    · rw [table]
      exact guarded.ends_execute registered effects
    · rw [table]
      exact guarded.ends

theorem Guarded.run (guarded : Guarded registry job claim claimedAt system)
    (registered : job ∈ registry.jobs) (actions : List Action) :
    Guarded registry job claim claimedAt (RunLib.run (Scheduler.step registry.jobs) system actions) :=
  RunLib.run_invariant guarded (fun _ action kept => kept.step registered action) actions

theorem Guarded.taken (guarded : Guarded registry job claim claimedAt system) {other : Nat}
    {event : Event} {statement : Statement}
    (effects : effect system (.runner other event) = some statement)
    (takes : statement.takesLeases = true) {row : Execution} (member : row ∈ system.table.rows)
    (held : heldBy claim.id claim.leaseToken row = true)
    (changed : row ∉ (Scheduler.step registry.jobs system (.runner other event)).table.rows) :
    row.staleAfter < system.table.now := by
  have clocks := guarded.clocks other
  have running := (heldBy_spec held).2.2
  rw [step_effect registry.jobs effects] at changed
  have byClock : ∀ dbTime, dbTime = (system.runners other).now → row.stale dbTime = true →
      row.staleAfter < system.table.now := by
    intro dbTime same stale
    have expired := (stale_running stale).2
    omega
  cases execute_cases system.table statement with
  | edited change rows each =>
      have moved : change row ≠ row := by
        intro same
        rw [rows] at changed
        exact changed (List.mem_map.mpr ⟨row, member, same⟩)
      have step := each row member
      revert step moved
      generalize change row = new
      intro moved step
      cases step with
      | same => contradiction
      | swept _ stale =>
          cases issued_issues effects with
          | sweep phase => exact byClock _ rfl stale
      | beat => cases takes
      | succeeded => cases takes
      | failed => cases takes
  | inserted request _ _ _ rows =>
      rw [rows] at changed
      exact absurd (List.mem_append_left _ member) changed
  | stolen request taken by_steal _ _ rows =>
      rw [rows] at changed
      have takesRow : request.takes row = true := by
        by_contra unmatched
        exact changed (List.mem_map.mpr ⟨row, member, if_neg unmatched⟩)
      obtain ⟨-, -, due⟩ := takes_spec takesRow
      rcases due with retry | ⟨stale, -⟩
      · simp [Execution.retryDue, running] at retry
      · subst by_steal
        cases issued_issues effects with
        | claimSteal phase => exact byClock _ rfl stale

theorem Guarded.leaseKept (guarded : Guarded registry job claim claimedAt system)
    (registered : job ∈ registry.jobs) (holder : Nat) :
    LeaseKept registry holder claim claimedAt (leaseInterval job.spec.staleTimeout) system := by
  intro actions other event statement row _ effects takes member held changed
  have kept := guarded.run registered actions
  have expired := kept.taken effects takes member held changed
  have ends := kept.ends row member held
  omega

end Guarded

section Claims

variable {registry : Registry} {system : System} {index : Nat} {event : Event}
  {request : ClaimRequest} {claim : Claim}

theorem ClaimedBy.leased (claimed : ClaimedBy system index event request claim) :
    (∃ row ∈ (step registry.jobs system (.runner index event)).table.rows,
      Leased request claim row) ∧
    claim ∈ (step registry.jobs system (.runner index event)).table.granted := by
  cases claimed with
  | inserted issues won =>
      rw [step_effect registry.jobs issues]
      exact claimInsert_leased won
  | stolen issues won =>
      rw [step_effect registry.jobs issues]
      exact claimSteal_leased won

theorem ClaimedBy.request_spec (coherent : Coherent registry.jobs system)
    (claimed : ClaimedBy system index event request claim) :
    (∃ job ∈ registry.jobs, request.job = job.spec) ∧
      request.dbTime = (system.runners index).now ∧
      (step registry.jobs system (.runner index event)).table.now = system.table.now := by
  cases claimed with
  | inserted issues won =>
      obtain ⟨spec, clock⟩ := coherent.request_spec (Or.inl issues)
      refine ⟨spec, clock, ?_⟩
      rw [step_effect registry.jobs issues, execute_now]
      exact Int.add_zero _
  | stolen issues won =>
      obtain ⟨spec, clock⟩ := coherent.request_spec (Or.inr issues)
      refine ⟨spec, clock, ?_⟩
      rw [step_effect registry.jobs issues, execute_now]
      exact Int.add_zero _

theorem ClaimedBy.guarded (coherent : Coherent registry.jobs system)
    (claimed : ClaimedBy system index event request claim) {job : Job}
    (same : request.job = job.spec) (prompt : system.table.now ≤ request.dbTime + 1) :
    Guarded registry job claim system.table.now
      (step registry.jobs system (.runner index event)) := by
  obtain ⟨⟨row, member, leased⟩, granted⟩ := @ClaimedBy.leased registry _ _ _ _ _ claimed
  obtain ⟨-, clock, now⟩ := claimed.request_spec coherent
  have later := coherent.step (.runner index event)
  have earlier := coherent.clocks index
  have only : ∀ other ∈ (step registry.jobs system (.runner index event)).table.rows,
      other.id = claim.id → other = row := by
    intro other listed sameId
    exact List.inj_on_of_nodup_map later.consistent.ids listed member
      (sameId.trans (heldBy_spec leased.held).1.symm)
  refine ⟨later, granted, fun other listed sameId => ?_, by omega, fun other listed held => ?_⟩
  · rw [only other listed sameId, leased.jobName, same]
  · rw [only other listed (heldBy_spec held).1, leased.heartbeatAt, leased.staleAfter, same]
    omega

def overtaking (registry : Registry) (holder : Nat) (job : Job) (duration : Nat) : List Action :=
  [.runner holder .crash, .elapse duration, .runner (holder + 1) .crash,
    .runner (holder + 1) (.beginTick (job :: registry.jobs.erase job)),
    .runner (holder + 1) (.provideScopes (some []))]

theorem overtaking_run {job : Job} (registered : job ∈ registry.jobs) (start : System)
    (holder duration : Nat) :
    (RunLib.run (step registry.jobs) start (overtaking registry holder job duration)).table =
        { start.table with now := start.table.now + duration } ∧
      (RunLib.run (step registry.jobs) start (overtaking registry holder job duration)).runners
          (holder + 1) =
        ⟨start.table.now + duration, .sweep ⟨job, [], registry.jobs.erase job⟩⟩ := by
  have same : (job :: registry.jobs.erase job).Perm registry.jobs :=
    (List.perm_cons_erase registered).symm
  simp [overtaking, RunLib.run, step, issued, control, clock, execute, same]

theorem swept_changed {table : Table} {jobName : String} {dbTime : Int} {row : Execution}
    (running : row.status = .running) (swept : sweeps jobName dbTime row = true) :
    row ∉ (markStaleAsFailed table jobName dbTime).1.rows := by
  intro member
  rcases TableLib.mem_updateWhere member with ⟨-, unmatched⟩ | ⟨old, -, -, same⟩
  · rw [swept] at unmatched
    contradiction
  · rw [same] at running
    cases running

theorem ClaimedBy.overtaken (coherent : Coherent registry.jobs system)
    (claimed : ClaimedBy system index event request claim)
    (late : request.dbTime + 1 < system.table.now) :
    ¬ LeaseKept registry index claim system.table.now (leaseInterval request.job.staleTimeout)
      (step registry.jobs system (.runner index event)) := by
  intro kept
  obtain ⟨⟨row, member, leased⟩, -⟩ := @ClaimedBy.leased registry _ _ _ _ _ claimed
  obtain ⟨⟨job, registered, same⟩, clock, now⟩ := claimed.request_spec coherent
  have earlier := coherent.clocks index
  have long := leaseInterval_pos request.job.staleTimeout
  rw [second] at long
  have running := (heldBy_spec leased.held).2.2
  -- the instant after the lease that the claim wrote has run out
  let wait : Nat :=
    (request.dbTime + leaseInterval request.job.staleTimeout + 1 - system.table.now).toNat
  obtain ⟨table, runner⟩ := overtaking_run registered
    (step registry.jobs system (.runner index event)) index wait
  have swept : sweeps job.spec.name (system.table.now + wait) row = true := by
    have expired : row.staleAfter < system.table.now + wait := by
      rw [leased.staleAfter]
      omega
    simp [sweeps_iff, Execution.stale, leased.jobName, same, running, expired]
  have effects : effect (RunLib.run (step registry.jobs)
      (step registry.jobs system (.runner index event)) (overtaking registry index job wait))
      (.runner (index + 1) (.markStaleAsFailed false)) =
        some (.markStaleAsFailed job.spec.name (system.table.now + wait)) := by
    simp only [effect, issued, runner, now]
  have bound := kept _ (index + 1) _ _ row (by omega) effects rfl
    (by rw [table]; exact member) leased.held
    (by rw [step_effect registry.jobs effects]; exact swept_changed running swept)
  rw [table, leased.heartbeatAt, now] at bound
  dsimp only at bound
  omega

/-- For every claim of every run: the lease is safe for its whole length exactly when the
claim is made within a microsecond of the clock reading of its tick. -/
theorem live_lease_kept_iff (registry : Registry) (now : Int) (actions : List Action) {index : Nat}
    {event : Event} {request : ClaimRequest} {claim : Claim}
    (claimed : ClaimedBy (RunLib.run (step registry.jobs) (initial now) actions) index event request
      claim) :
    LeaseKept registry index claim
        (RunLib.run (step registry.jobs) (initial now) actions).table.now
        (leaseInterval request.job.staleTimeout)
        (step registry.jobs (RunLib.run (step registry.jobs) (initial now) actions)
          (.runner index event)) ↔
      (RunLib.run (step registry.jobs) (initial now) actions).table.now ≤
        ((RunLib.run (step registry.jobs) (initial now) actions).runners index).now + 1 := by
  have coherent := reachable_coherent registry.jobs now actions
  obtain ⟨⟨job, registered, same⟩, clock, -⟩ := claimed.request_spec coherent
  rw [← clock]
  constructor
  · intro kept
    by_contra late
    exact claimed.overtaken coherent (by omega) kept
  · intro prompt
    rw [same]
    exact (claimed.guarded coherent same prompt).leaseKept registered index

end Claims

/-! A tick that begins at 0 with a job of a hundred seconds and then claims another one. -/

def slowJob : Job := ⟨plainSpec "slow" (120 * second) (180 * second), by decide⟩

def quickJob : Job := ⟨plainSpec "quick" (30 * second) (60 * second), by decide⟩

def twoJobs : Registry := ⟨[slowJob, quickJob], by decide⟩

def slowTick : List Action :=
  [.runner 0 (.beginTick [slowJob, quickJob])] ++ toClaim 0 ++
    [.runner 0 (.claimInsert false), .elapse 100000000,
      .runner 0 (.handlerReturns (.ok ⟨0, .empty⟩) 100000 none), .runner 0 (.finish false),
      .runner 0 .nextScope, .runner 0 .nextJob] ++ toClaim 0

def quickRequest : ClaimRequest := ⟨quickJob.spec, globalScope, 0, 0, "0"⟩

def sweepLater : List Action :=
  [.elapse 1000000, .runner 1 (.beginTick [quickJob, slowJob]),
    .runner 1 (.provideScopes (some [globalScope]))]

theorem slowTick_claimed :
    ClaimedBy (RunLib.run (step twoJobs.jobs) (initial 0) slowTick) 0 (.claimInsert false)
      quickRequest ⟨1, 1, 1⟩ := by
  apply @ClaimedBy.inserted _ _ _ _ _
    (execute (RunLib.run (step twoJobs.jobs) (initial 0) slowTick).table (.claimInsert quickRequest))
  · rfl
  · rfl

theorem live_lease_kept_iff_slowTick :
    ¬ LeaseKept twoJobs 0 ⟨1, 1, 1⟩
      (RunLib.run (step twoJobs.jobs) (initial 0) slowTick).table.now
      (leaseInterval quickJob.spec.staleTimeout)
      (step twoJobs.jobs (RunLib.run (step twoJobs.jobs) (initial 0) slowTick)
        (.runner 0 (.claimInsert false))) := by
  intro kept
  have prompt := (live_lease_kept_iff twoJobs 0 slowTick slowTick_claimed).mp kept
  revert prompt
  decide

/-- The lease claimed at 100 s ends at 60 s, and a live handler's row is swept at 101 s. -/
theorem live_lease_swept :
    ClaimedBy (RunLib.run (step twoJobs.jobs) (initial 0) slowTick) 0 (.claimInsert false)
      quickRequest ⟨1, 1, 1⟩ ∧
    ¬ LeaseKept twoJobs 0 ⟨1, 1, 1⟩ 100000000 60000000
      (step twoJobs.jobs (RunLib.run (step twoJobs.jobs) (initial 0) slowTick)
        (.runner 0 (.claimInsert false))) := by
  refine ⟨slowTick_claimed, fun kept => ?_⟩
  have bound := kept sweepLater 1 (.markStaleAsFailed false) (.markStaleAsFailed "quick" 101000000)
    (quickRequest.row 1 1) (by decide) rfl rfl (by decide) rfl (by decide)
  revert bound
  decide

end MulticaOS.Scheduler
