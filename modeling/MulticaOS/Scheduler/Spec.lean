import Mathlib.Data.Int.Basic
import Mathlib.Tactic.Common

/-!
The job specs of the scheduler: what `validate` demands, the retry delays and the plan
grid.  Instants and durations are in microseconds, and instant 0 is Go's zero time.
-/

namespace MulticaOS.Scheduler

def second : Int := 1000000

inductive CatchUpMode where
  | latestOnly
  | everyPlan
  | unknown (code : Int)
  deriving DecidableEq

structure Scope where
  kind : String
  id : String
  deriving DecidableEq

/-- `JobSpec`, less the three functions in it, of which `validate` only asks whether they are
set. -/
structure JobSpec where
  name : String
  cadence : Int
  scheduleDelay : Int
  catchUpMode : CatchUpMode
  catchUpWindow : Int
  maxPlansPerTick : Int
  runTimeout : Int
  staleTimeout : Int
  heartbeatInterval : Int
  allowStaleReentry : Bool
  maxAttempts : Int
  retryBackoff : List Int
  scopes : Bool
  plansForScope : Bool
  handler : Bool
  deriving DecidableEq

inductive SpecError where
  | nameRequired
  | cadence
  | runTimeout
  | staleTimeout
  | heartbeatInterval
  | maxAttempts
  | scopesRequired
  | handlerRequired
  | maxPlansPerTick
  deriving DecidableEq

def isSpace (c : Char) : Bool :=
  c.toNat = 0x20 || (0x09 ≤ c.toNat && c.toNat ≤ 0x0d) || c.toNat = 0x85 || c.toNat = 0xa0 ||
    c.toNat = 0x1680 || (0x2000 ≤ c.toNat && c.toNat ≤ 0x200a) || c.toNat = 0x2028 ||
    c.toNat = 0x2029 || c.toNat = 0x202f || c.toNat = 0x205f || c.toNat = 0x3000

def JobSpec.validate (job : JobSpec) : Except SpecError Unit :=
  if job.name.toList.all isSpace then .error .nameRequired
  else if !job.plansForScope && job.cadence ≤ 0 then .error .cadence
  else if job.runTimeout ≤ 0 then .error .runTimeout
  else if job.staleTimeout ≤ job.runTimeout then .error .staleTimeout
  else if job.heartbeatInterval ≤ 0 || job.heartbeatInterval ≥ job.staleTimeout then
    .error .heartbeatInterval
  else if job.maxAttempts < 1 then .error .maxAttempts
  else if !job.scopes then .error .scopesRequired
  else if !job.handler then .error .handlerRequired
  else if !job.plansForScope && job.catchUpMode = .everyPlan && job.maxPlansPerTick ≤ 0 then
    .error .maxPlansPerTick
  else .ok ()

def JobSpec.retryDelay (job : JobSpec) (attempt : Nat) : Int :=
  if job.retryBackoff.isEmpty then 0
  else
    let index := attempt - 1
    let index := if index ≥ job.retryBackoff.length then job.retryBackoff.length - 1 else index
    job.retryBackoff.getD index 0

def leaseInterval (staleTimeout : Int) : Int :=
  let staleSecs := staleTimeout.tdiv second
  (if staleSecs ≤ 0 then 1 else staleSecs) * second

def floorPlan (eligible : Int) (cadence : Int) : Int :=
  if cadence ≤ 0 then eligible else eligible - eligible % cadence

structure Job where
  spec : JobSpec
  valid : spec.validate = .ok ()
  deriving DecidableEq

theorem leaseInterval_pos (staleTimeout : Int) : second ≤ leaseInterval staleTimeout := by
  rw [leaseInterval, second]
  by_cases short : staleTimeout.tdiv 1000000 ≤ 0
  · simp [short]
  · simp only [short, if_false]
    omega

structure Accepted (job : JobSpec) : Prop where
  cadence : job.plansForScope = false → 0 < job.cadence
  runTimeout : 0 < job.runTimeout
  staleTimeout : job.runTimeout < job.staleTimeout
  heartbeatInterval : 0 < job.heartbeatInterval ∧ job.heartbeatInterval < job.staleTimeout
  maxAttempts : 1 ≤ job.maxAttempts

theorem Job.accepted (job : Job) : Accepted job.spec := by
  have valid := job.valid
  simp only [JobSpec.validate] at valid
  repeat
    split at valid
    · cases valid
  rename_i cadence runTimeout staleTimeout heartbeat maxAttempts _ _ _
  simp only [Bool.or_eq_true, decide_eq_true_eq, not_or] at heartbeat
  constructor
  · intro plain
    simp only [plain, Bool.not_false, Bool.true_and, decide_eq_true_eq] at cadence
    omega
  · omega
  · omega
  · omega
  · omega

end MulticaOS.Scheduler
