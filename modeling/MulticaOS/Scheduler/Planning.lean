import MulticaOS.Scheduler.Executions

/-!
Which plans a tick attempts: `plansForTick` with its single cursor, the newest stored plan
of the job and scope.
-/

namespace MulticaOS.Scheduler

structure LatestPlanInfo where
  planTime : Int
  status : Status
  attempt : Nat
  maxAttempts : Int
  nextRetryAt : Option Int
  deriving DecidableEq

def Execution.planInfo (row : Execution) : LatestPlanInfo :=
  ⟨row.planTime, row.status, row.attempt, row.maxAttempts, row.nextRetryAt⟩

def LatestPlanInfo.retryEligible (info : LatestPlanInfo) (now : Int) : Bool :=
  info.status = .failed && info.attempt < info.maxAttempts &&
    match info.nextRetryAt with
    | none => true
    | some nextRetryAt => nextRetryAt ≤ now

def rowsOf (table : Table) (jobName : String) (scope : Scope) : List Execution :=
  table.rows.filter fun row => row.jobName = jobName && row.scope = scope

def latestPlan (table : Table) (jobName : String) (scope : Scope) : Option LatestPlanInfo :=
  (TableLib.first (fun left right => right.planTime < left.planTime)
    (rowsOf table jobName scope)).map Execution.planInfo

def plansFrom (cadence latest : Int) : Nat → Int → List Int
  | 0, _ => []
  | room + 1, plan =>
      if plan ≤ latest then plan :: plansFrom cadence latest room (plan + cadence) else []

inductive PlanError where
  | hook
  | unknownCatchUpMode (code : Int)
  deriving DecidableEq

abbrev Hook := Option LatestPlanInfo → Except PlanError (List Int)

def latestDue (job : JobSpec) (now : Int) : Int := floorPlan (now - job.scheduleDelay) job.cadence

def oldestAllowed (job : JobSpec) (now : Int) : Int :=
  if job.catchUpWindow ≤ 0 then latestDue job now else now - job.catchUpWindow

def startPlan (table : Table) (job : JobSpec) (scope : Scope) (now : Int) : Int :=
  let start := match latestPlan table job.name scope with
    | some info => if info.retryEligible now then info.planTime else info.planTime + job.cadence
    | none => latestDue job now
  if start < oldestAllowed job now then
    let floored := floorPlan (oldestAllowed job now) job.cadence
    if floored < oldestAllowed job now then floored + job.cadence else floored
  else start

def plansForTick (table : Table) (job : JobSpec) (scope : Scope) (now : Int) (hook : Hook) :
    Except PlanError (List Int) :=
  if job.plansForScope then
    match hook (latestPlan table job.name scope) with
    | .error error => .error error
    | .ok plans =>
        if 0 < job.maxPlansPerTick && job.maxPlansPerTick < plans.length then
          .ok (plans.take job.maxPlansPerTick.toNat)
        else .ok plans
  else if now - job.scheduleDelay < latestDue job now then .ok []
  else
    match job.catchUpMode with
    | .latestOnly => .ok [latestDue job now]
    | .everyPlan =>
        .ok (plansFrom job.cadence (latestDue job now) job.maxPlansPerTick.toNat
          (startPlan table job scope now))
    | .unknown code => .error (.unknownCatchUpMode code)

theorem mem_plansFrom {cadence latest : Int} {room : Nat} {start plan : Int} :
    plan ∈ plansFrom cadence latest room start →
      ∃ index : Nat, plan = start + index * cadence ∧ plan ≤ latest := by
  induction room generalizing start with
  | zero => simp [plansFrom]
  | succ room ih =>
      intro member
      rw [plansFrom] at member
      split at member
      · rename_i due
        rcases List.mem_cons.mp member with rfl | later
        · exact ⟨0, by simp, due⟩
        · obtain ⟨index, same, within⟩ := ih later
          refine ⟨index + 1, ?_, within⟩
          push_cast
          rw [same, Int.add_mul]
          omega
      · simp at member

theorem plansFrom_mem {cadence latest : Int} (positive : 0 < cadence) {room index : Nat} {start : Int}
    (within : start + index * cadence ≤ latest) (fits : index < room) :
    start + index * cadence ∈ plansFrom cadence latest room start := by
  induction index generalizing room start with
  | zero =>
      obtain ⟨rest, rfl⟩ := Nat.exists_eq_add_of_lt fits
      have due : start ≤ latest := by simpa using within
      rw [Nat.zero_add, plansFrom, if_pos due]
      simp
  | succ index ih =>
      obtain ⟨rest, rfl⟩ : ∃ rest, room = rest + 1 := ⟨room - 1, by omega⟩
      have expand : start + (index + 1 : Nat) * cadence = start + cadence + index * cadence := by
        push_cast
        rw [Int.add_mul]
        omega
      have forward : 0 ≤ (index : Int) * cadence := by positivity
      rw [expand] at within ⊢
      have due : start ≤ latest := by omega
      rw [plansFrom, if_pos due]
      exact List.mem_cons_of_mem _ (ih within (by omega))

theorem floorPlan_grid (eligible : Int) {cadence : Int} (positive : 0 < cadence) :
    floorPlan eligible cadence % cadence = 0 ∧ floorPlan eligible cadence ≤ eligible ∧
      eligible < floorPlan eligible cadence + cadence := by
  have remainder := Int.emod_nonneg eligible (by omega : cadence ≠ 0)
  have below := Int.emod_lt_of_pos eligible positive
  rw [floorPlan, if_neg (by omega)]
  refine ⟨?_, by omega, by omega⟩
  rw [Int.sub_emod, Int.emod_emod_of_dvd _ (dvd_refl cadence), sub_self, Int.zero_emod]

theorem grid_steps {cadence start plan : Int} (positive : 0 < cadence) (startGrid : start % cadence = 0)
    (planGrid : plan % cadence = 0) (later : start ≤ plan) :
    ∃ index : Nat, plan = start + index * cadence := by
  obtain ⟨low, rfl⟩ := Int.dvd_of_emod_eq_zero startGrid
  obtain ⟨high, rfl⟩ := Int.dvd_of_emod_eq_zero planGrid
  have order : low ≤ high := le_of_mul_le_mul_left later positive
  refine ⟨(high - low).toNat, ?_⟩
  rw [Int.toNat_of_nonneg (by omega), Int.sub_mul, Int.mul_comm cadence low,
    Int.mul_comm cadence high]
  omega

end MulticaOS.Scheduler
