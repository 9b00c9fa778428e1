import MulticaOS.Scheduler.LiveLeases

/-!
Catch-up in `every_plan` mode.  The planner starts from the newest stored plan of the scope,
so a plan that is still to be run is found only when nothing newer has been stored.
-/

namespace MulticaOS.Scheduler

structure Due (table : Table) (job : JobSpec) (scope : Scope) (now plan : Int) : Prop where
  grid : plan % job.cadence = 0
  stored : ∃ row ∈ rowsOf table job.name scope, row.planTime ≤ plan
  past : plan ≤ latestDue job now
  inWindow : now - job.catchUpWindow ≤ plan
  unsettled : ∀ row ∈ rowsOf table job.name scope, row.planTime = plan →
    row.retryDue now = true ∧ (row.attempt : Int) < row.maxAttempts

def Planned (table : Table) (job : JobSpec) (scope : Scope) (now plan : Int) (hook : Hook) : Prop :=
  ∃ limit plans, plansForTick table { job with maxPlansPerTick := limit } scope now hook = .ok plans ∧
    plan ∈ plans

structure Reached (table : Table) (job : JobSpec) (scope : Scope) (now plan : Int) : Prop where
  newest : ∀ row ∈ rowsOf table job.name scope, row.planTime ≤ plan
  onlyLatest : job.catchUpWindow ≤ 0 → plan = latestDue job now

def cursor (job : JobSpec) (now : Int) (row : Execution) : Int :=
  if row.planInfo.retryEligible now then row.planTime else row.planTime + job.cadence

def ceilPlan (oldest cadence : Int) : Int :=
  if floorPlan oldest cadence < oldest then floorPlan oldest cadence + cadence
  else floorPlan oldest cadence

section Planning

variable {table : Table} {job : JobSpec} {scope : Scope} {now plan : Int}

theorem retryEligible_iff (row : Execution) :
    row.planInfo.retryEligible now = true ↔
      row.retryDue now = true ∧ (row.attempt : Int) < row.maxAttempts := by
  cases retry : row.nextRetryAt <;>
    simp [LatestPlanInfo.retryEligible, Execution.planInfo, Execution.retryDue, retry, and_right_comm]

theorem latestPlan_spec {info : LatestPlanInfo} (found : latestPlan table job.name scope = some info) :
    ∃ row ∈ rowsOf table job.name scope, info = row.planInfo ∧
      ∀ other ∈ rowsOf table job.name scope, other.planTime ≤ row.planTime := by
  obtain ⟨row, first, rfl⟩ := Option.map_eq_some_iff.mp found
  exact ⟨row, TableLib.first_mem first, rfl, TableLib.first_greatest first⟩

theorem plansForTick_everyPlan (cadenced : job.plansForScope = false)
    (everyPlan : job.catchUpMode = .everyPlan) (positive : 0 < job.cadence) (hook : Hook) :
    plansForTick table job scope now hook =
      .ok (plansFrom job.cadence (latestDue job now) job.maxPlansPerTick.toNat
        (startPlan table job scope now)) := by
  have past := (floorPlan_grid (now - job.scheduleDelay) positive).2.1
  have notFuture : ¬ now - job.scheduleDelay < latestDue job now := by
    rw [latestDue]
    omega
  rw [plansForTick, if_neg (by simp [cadenced]), if_neg notFuture, everyPlan]

theorem grid_next {cadence start plan : Int} (positive : 0 < cadence) (startGrid : start % cadence = 0)
    (planGrid : plan % cadence = 0) (later : start < plan) : start + cadence ≤ plan := by
  obtain ⟨index, rfl⟩ := grid_steps positive startGrid planGrid (by omega)
  have moved : index ≠ 0 := by
    rintro rfl
    simp at later
  obtain ⟨pred, rfl⟩ := Nat.exists_eq_succ_of_ne_zero moved
  have rest : 0 ≤ (pred : Int) * cadence := by positivity
  push_cast
  rw [Int.add_mul]
  omega

theorem ceilPlan_spec (oldest : Int) {cadence : Int} (positive : 0 < cadence) :
    ceilPlan oldest cadence % cadence = 0 ∧ oldest ≤ ceilPlan oldest cadence ∧
      ∀ plan, plan % cadence = 0 → oldest ≤ plan → ceilPlan oldest cadence ≤ plan := by
  obtain ⟨grid, below, above⟩ := floorPlan_grid oldest positive
  rw [ceilPlan]
  split
  · rename_i before
    refine ⟨by rw [Int.add_emod_right, grid], by omega, fun plan onGrid later => ?_⟩
    exact grid_next positive grid onGrid (by omega)
  · exact ⟨grid, by omega, fun plan _ later => by omega⟩

theorem startPlan_spec (positive : 0 < job.cadence)
    (onGrid : ∀ row ∈ rowsOf table job.name scope, row.planTime % job.cadence = 0)
    (some : ∃ row, row ∈ rowsOf table job.name scope) :
    ∃ row ∈ rowsOf table job.name scope,
      (∀ other ∈ rowsOf table job.name scope, other.planTime ≤ row.planTime) ∧
      startPlan table job scope now % job.cadence = 0 ∧
      ∀ plan, plan % job.cadence = 0 →
        (startPlan table job scope now ≤ plan ↔ oldestAllowed job now ≤ plan ∧
          cursor job now row ≤ plan) := by
  obtain ⟨listed, member⟩ := some
  cases found : latestPlan table job.name scope with
  | none =>
      rw [latestPlan, Option.map_eq_none_iff, TableLib.first_eq_none] at found
      rw [found] at member
      cases member
  | some info =>
      obtain ⟨row, stored, rfl, newest⟩ := latestPlan_spec found
      refine ⟨row, stored, newest, ?_⟩
      have rowGrid := onGrid row stored
      have cursorGrid : cursor job now row % job.cadence = 0 := by
        rw [cursor]
        split
        · exact rowGrid
        · rw [Int.add_emod_right, rowGrid]
      have start : startPlan table job scope now =
          if cursor job now row < oldestAllowed job now then
            ceilPlan (oldestAllowed job now) job.cadence
          else cursor job now row := by
        simp only [startPlan, found]
        rfl
      obtain ⟨ceilGrid, above, least⟩ := ceilPlan_spec (oldestAllowed job now) positive
      rw [start]
      split
      · refine ⟨ceilGrid, fun plan planGrid => ⟨fun after => ?_, fun after => ?_⟩⟩
        · omega
        · exact least plan planGrid after.1
      · refine ⟨cursorGrid, fun plan _ => ⟨fun after => ?_, fun after => after.2⟩⟩
        exact ⟨by omega, after⟩

theorem planned_iff (cadenced : job.plansForScope = false) (everyPlan : job.catchUpMode = .everyPlan)
    (positive : 0 < job.cadence) (startGrid : startPlan table job scope now % job.cadence = 0)
    (planGrid : plan % job.cadence = 0) (past : plan ≤ latestDue job now) (hook : Hook) :
    Planned table job scope now plan hook ↔ startPlan table job scope now ≤ plan := by
  have listed : ∀ limit, plansForTick table { job with maxPlansPerTick := limit } scope now hook =
      .ok (plansFrom job.cadence (latestDue job now) limit.toNat (startPlan table job scope now)) :=
    fun limit => @plansForTick_everyPlan _ { job with maxPlansPerTick := limit } _ _ cadenced
      everyPlan positive hook
  constructor
  · rintro ⟨limit, plans, answer, member⟩
    rw [listed, Except.ok.injEq] at answer
    rw [← answer] at member
    obtain ⟨index, same, -⟩ := mem_plansFrom member
    have forward : 0 ≤ (index : Int) * job.cadence := by positivity
    omega
  · intro reached
    obtain ⟨index, rfl⟩ := grid_steps positive startGrid planGrid reached
    refine ⟨index + 1, _, listed _, plansFrom_mem positive past ?_⟩
    omega

theorem Due.planned_iff (cadenced : job.plansForScope = false)
    (everyPlan : job.catchUpMode = .everyPlan) (positive : 0 < job.cadence)
    (onGrid : ∀ row ∈ rowsOf table job.name scope, row.planTime % job.cadence = 0)
    (due : Due table job scope now plan) (hook : Hook) :
    Planned table job scope now plan hook ↔ Reached table job scope now plan := by
  obtain ⟨earlier, listed, -⟩ := due.stored
  obtain ⟨row, stored, newest, startGrid, start⟩ := @startPlan_spec _ _ _ now positive onGrid
    ⟨earlier, listed⟩
  rw [Scheduler.planned_iff cadenced everyPlan positive startGrid due.grid due.past hook,
    start plan due.grid]
  have past := due.past
  have inWindow := due.inWindow
  constructor
  · rintro ⟨allowed, reached⟩
    refine ⟨fun other member => ?_, fun closed => ?_⟩
    · have below := newest other member
      rw [cursor] at reached
      split at reached <;> omega
    · rw [oldestAllowed, if_pos closed] at allowed
      omega
  · rintro ⟨behind, onlyLatest⟩
    refine ⟨?_, ?_⟩
    · rw [oldestAllowed]
      split
      · rename_i closed
        rw [onlyLatest closed]
      · exact inWindow
    · have below := behind row stored
      rw [cursor]
      split
      · exact below
      · rename_i settled
        have different : row.planTime ≠ plan := by
          intro same
          exact settled ((retryEligible_iff row).mpr (due.unsettled row stored same))
        exact grid_next positive (onGrid row stored) due.grid (by omega)

end Planning

def NoneStranded (system : System) (job : JobSpec) (scope : Scope) (hook : Hook) : Prop :=
  ∀ plan, Due system.table job scope system.table.now plan →
    Planned system.table job scope system.table.now plan hook

/-- In every state of every run, no plan is stranded exactly when no due plan is older than a
stored one. -/
theorem no_plan_stranded_iff (registry : Registry) (now : Int) (actions : List Action) (job : Job)
    (cadenced : job.spec.plansForScope = false) (everyPlan : job.spec.catchUpMode = .everyPlan)
    (scope : Scope) (hook : Hook)
    (onGrid : ∀ row ∈ rowsOf (RunLib.run (step registry.jobs) (initial now) actions).table
      job.spec.name scope, row.planTime % job.spec.cadence = 0) :
    NoneStranded (RunLib.run (step registry.jobs) (initial now) actions) job.spec scope hook ↔
      ∀ plan, Due (RunLib.run (step registry.jobs) (initial now) actions).table job.spec scope
          (RunLib.run (step registry.jobs) (initial now) actions).table.now plan →
        Reached (RunLib.run (step registry.jobs) (initial now) actions).table job.spec scope
          (RunLib.run (step registry.jobs) (initial now) actions).table.now plan := by
  have positive := job.accepted.cadence cadenced
  constructor
  · intro attempted plan due
    exact (due.planned_iff cadenced everyPlan positive onGrid hook).mp (attempted plan due)
  · intro reached plan due
    exact (due.planned_iff cadenced everyPlan positive onGrid hook).mpr (reached plan due)

/-! A plan that fails and waits two hours for its retry, while the next one succeeds. -/

def hour : Int := 3600 * second

def hourlyJob : Job :=
  ⟨{ plainSpec "hourly" (30 * second) (60 * second) with
      catchUpMode := .everyPlan
      catchUpWindow := 24 * hour
      maxPlansPerTick := 4
      maxAttempts := 3
      retryBackoff := [2 * hour] }, by decide⟩

def onlyHourly : Registry := ⟨[hourlyJob], by decide⟩

def noHook : Hook := fun _ => .ok []

def hourlyTick (outcome : Except HandlerError HandlerResult) : List Action :=
  [.runner 0 (.beginTick [hourlyJob])] ++ toClaim 0 ++
    [.runner 0 (.claimInsert false), .runner 0 (.handlerReturns outcome 0 none),
      .runner 0 (.finish false), .runner 0 .nextScope, .runner 0 .nextJob, .runner 0 .nextJob]

def failedOnly : List Action :=
  hourlyTick (.error ⟨.other, []⟩) ++ [.elapse 7200000000]

def failedBehind : List Action :=
  hourlyTick (.error ⟨.other, []⟩) ++ [.elapse 3600000000] ++ hourlyTick (.ok ⟨0, .empty⟩) ++
    [.elapse 3600000000]

theorem no_plan_stranded_iff_failedOnly :
    NoneStranded (RunLib.run (step onlyHourly.jobs) (initial hour) failedOnly) hourlyJob.spec
      globalScope noHook := by
  refine (no_plan_stranded_iff onlyHourly hour failedOnly hourlyJob rfl rfl globalScope noHook
    (by decide)).mpr fun plan due => ?_
  refine ⟨fun row member => ?_, fun closed => absurd closed (by decide)⟩
  obtain ⟨first, listed, earlier⟩ := due.stored
  have times : ∀ row ∈ rowsOf (RunLib.run (step onlyHourly.jobs) (initial hour) failedOnly).table
      hourlyJob.spec.name globalScope, row.planTime = hour := by decide
  rw [times first listed] at earlier
  rw [times row member]
  exact earlier

theorem failed_plan_stranded :
    ∃ plan, Due (RunLib.run (step onlyHourly.jobs) (initial hour) failedBehind).table hourlyJob.spec
        globalScope (RunLib.run (step onlyHourly.jobs) (initial hour) failedBehind).table.now plan ∧
      ¬ Planned (RunLib.run (step onlyHourly.jobs) (initial hour) failedBehind).table hourlyJob.spec
        globalScope (RunLib.run (step onlyHourly.jobs) (initial hour) failedBehind).table.now plan
        noHook := by
  have due : Due (RunLib.run (step onlyHourly.jobs) (initial hour) failedBehind).table hourlyJob.spec
      globalScope (RunLib.run (step onlyHourly.jobs) (initial hour) failedBehind).table.now hour :=
    ⟨by decide, by decide, by decide, by decide, by decide⟩
  refine ⟨hour, due, fun planned => ?_⟩
  have reached := (due.planned_iff rfl rfl (by decide) (by decide) noHook).mp planned
  have newest := reached.newest
  revert newest
  decide

end MulticaOS.Scheduler
