import MulticaOS.Lib.Search
import MulticaOS.Scheduler.Planning

/-!
The schedule of autopilot triggers: every trigger is a scope of one job, whose hook looks
for the most recent cron occurrence since the last one that was handled.  The cron library is
a parameter; all that is known of it is what a search for the next occurrence returns.
-/

namespace MulticaOS.Scheduler

def minute : Int := 60 * second

structure CronLibrary (Location : Type) where
  parse : String → Option (Location → Int → Int)
  loadLocation : String → Option Location

inductive CronError where
  | missingSchedule
  | parseCron
  | invalidTimezone
  deriving DecidableEq

def parseCronSchedule {Location : Type} (library : CronLibrary Location)
    (cronExpr timezone : String) : Except CronError (Int → Int) :=
  if ("TZ=".toList.isPrefixOf cronExpr.toList || "CRON_TZ=".toList.isPrefixOf cronExpr.toList) &&
      !cronExpr.toList.contains ' ' then
    .error .missingSchedule
  else
    match library.parse cronExpr with
    | none => .error .parseCron
    | some schedule =>
        match library.loadLocation timezone with
        | none => .error .invalidTimezone
        | some location => .ok (schedule location)

def hardCap : Nat := 1024

def nextOccurrencesUTC {Location : Type} (library : CronLibrary Location)
    (cronExpr timezone : String) (after last : Int) : Except CronError (List Int) :=
  match parseCronSchedule library cronExpr timezone with
  | .error error => .error error
  | .ok next => .ok (SearchLib.enumerate next last hardCap after)

/-- `ListSchedulableAutopilotTriggersRow`; an id that is no UUID is the empty text. -/
structure TriggerRow where
  id : String
  cronExpression : Option String
  timezone : Option String
  createdAt : Option Int
  lastFiredAt : Option Int

structure TriggerConfig where
  cronExpression : String
  timezone : String
  createdAt : Int
  lastFiredAt : Int

abbrev TriggerCache := String → Option TriggerConfig

def defaultAutopilotScheduleTimezone : String := "UTC"

def scopeKindAutopilotTrigger : String := "autopilot_trigger"

def TriggerRow.config (row : TriggerRow) : TriggerConfig where
  cronExpression := row.cronExpression.getD ""
  timezone :=
    if row.timezone.getD "" = "" then defaultAutopilotScheduleTimezone else row.timezone.getD ""
  createdAt := row.createdAt.getD 0
  lastFiredAt := row.lastFiredAt.getD 0

def TriggerRow.listed (row : TriggerRow) : Bool := row.id ≠ "" && row.cronExpression.getD "" ≠ ""

def autopilotScopes (rows : List TriggerRow) : TriggerCache × List Scope :=
  (rows.filter TriggerRow.listed).foldl
    (fun (cache, scopes) row =>
      (Function.update cache row.id (some row.config),
        scopes ++ [⟨scopeKindAutopilotTrigger, row.id⟩]))
    (fun _ => none, [])

def replayWindow : Int := 24 * 3600 * second

def maxAutopilotScheduleLateness : Int := 5 * 60 * second

def isAutopilotSchedulePlanStale (now planTime : Int) : Bool :=
  maxAutopilotScheduleLateness < now - planTime

def anchor (config : TriggerConfig) (now : Int) (latest : Option LatestPlanInfo) : Int :=
  let after := match latest with
    | some info => info.planTime
    | none => if config.lastFiredAt ≠ 0 then config.lastFiredAt else config.createdAt
  if after < now - replayWindow then now - replayWindow else after

def mostRecent (now : Int) (occurrences : List Int) : List Int :=
  match occurrences.getLast? with
  | none => []
  | some latestDue => if isAutopilotSchedulePlanStale now latestDue then [] else [latestDue]

def autopilotPlansForScope {Location : Type} (library : CronLibrary Location) (cache : TriggerCache)
    (scope : Scope) (now : Int) : Hook := fun latest =>
  match cache scope.id with
  | none => .ok []
  | some config =>
      match latest.filter fun info => info.retryEligible now with
      | some info => .ok [info.planTime]
      | none =>
          match nextOccurrencesUTC library config.cronExpression config.timezone
            (anchor config now latest) now with
          | .error _ => .error .hook
          | .ok occurrences => .ok (mostRecent now occurrences)

def autopilotScheduleDispatchJob : Job where
  spec :=
    { name := "autopilot_schedule_dispatch"
      cadence := 0
      scheduleDelay := 0
      catchUpMode := .latestOnly
      catchUpWindow := 24 * 3600 * second
      maxPlansPerTick := 5
      runTimeout := 2 * 60 * second
      staleTimeout := 5 * 60 * second
      heartbeatInterval := 30 * second
      allowStaleReentry := true
      maxAttempts := 3
      retryBackoff := [1 * 60 * second, 5 * 60 * second, 15 * 60 * second]
      scopes := true
      plansForScope := true
      handler := true }
  valid := by decide

theorem autopilotScopes_cached {rows : List TriggerRow} (distinct : (rows.map TriggerRow.id).Nodup)
    {row : TriggerRow} (member : row ∈ rows) (listed : row.listed = true) :
    (autopilotScopes rows).1 row.id = some row.config := by
  have general : ∀ (kept : List TriggerRow) (cache : TriggerCache) (scopes : List Scope),
      (kept.map TriggerRow.id).Nodup →
      (row ∈ kept ∨ (cache row.id = some row.config ∧ ∀ other ∈ kept, other.id ≠ row.id)) →
      (kept.foldl (fun (cache, scopes) row =>
        (Function.update cache row.id (some row.config),
          scopes ++ [⟨scopeKindAutopilotTrigger, row.id⟩])) (cache, scopes)).1 row.id =
        some row.config := by
    intro kept
    induction kept with
    | nil =>
        intro cache scopes _ known
        rcases known with inNil | ⟨stored, -⟩
        · cases inNil
        · exact stored
    | cons head rest ih =>
        intro cache scopes nodup known
        obtain ⟨fresh, restNodup⟩ := List.nodup_cons.mp nodup
        refine ih _ _ restNodup ?_
        rcases known with inList | ⟨stored, different⟩
        · rcases List.mem_cons.mp inList with rfl | later
          · refine Or.inr ⟨by simp, fun other inRest same => fresh ?_⟩
            exact List.mem_map.mpr ⟨other, inRest, same⟩
          · exact Or.inl later
        · refine Or.inr ⟨?_, fun other inRest => different other (List.mem_cons_of_mem _ inRest)⟩
          rw [Function.update_of_ne (different head List.mem_cons_self).symm]
          exact stored
  refine general _ _ _ ?_ (Or.inl (List.mem_filter.mpr ⟨member, listed⟩))
  exact distinct.sublist (List.filter_sublist.map _)

theorem plansForTick_autopilot {Location : Type} (library : CronLibrary Location)
    (cache : TriggerCache) (table : Table) (scope : Scope) (now : Int) :
    plansForTick table autopilotScheduleDispatchJob.spec scope now
        (autopilotPlansForScope library cache scope now) =
      autopilotPlansForScope library cache scope now
        (latestPlan table autopilotScheduleDispatchJob.spec.name scope) := by
  have short : ∀ latest plans, autopilotPlansForScope library cache scope now latest = .ok plans →
      plans.length ≤ 1 := by
    intro latest plans answer
    simp only [autopilotPlansForScope] at answer
    repeat' split at answer
    all_goals cases answer
    · simp
    · simp
    · simp only [mostRecent]
      repeat' split
      all_goals simp
  have hooked : autopilotScheduleDispatchJob.spec.plansForScope = true := rfl
  rw [plansForTick, if_pos hooked]
  split
  · rename_i error answer
    exact answer.symm
  · rename_i plans answer
    have few := short _ _ answer
    have cap : autopilotScheduleDispatchJob.spec.maxPlansPerTick = 5 := rfl
    rw [if_neg, answer]
    simp only [cap, Bool.and_eq_true, decide_eq_true_eq, not_and]
    omega

structure FreshLast (Fires : Int → Prop) (anchor now occurrence : Int) : Prop where
  fires : Fires occurrence
  after : anchor < occurrence
  past : occurrence ≤ now
  last : ∀ other, Fires other → other ≤ now → other ≤ occurrence
  fresh : now - occurrence ≤ maxAutopilotScheduleLateness

structure PlansLast (Fires : Int → Prop) (anchor now : Int) (plans : List Int) : Prop where
  planned : ∀ occurrence, FreshLast Fires anchor now occurrence → plans = [occurrence]
  nothing : (∀ occurrence, ¬ FreshLast Fires anchor now occurrence) → plans = []

def activations (Fires : Int → Prop) (anchor now : Int) : Set Int :=
  { point | Fires point ∧ anchor < point ∧ point ≤ now }

section Hook

variable {Fires : Int → Prop} {limit next : Int → Int} {start now occurrence : Int}
  {points : List Int}

theorem stale_iff {planTime : Int} :
    isAutopilotSchedulePlanStale now planTime = true ↔
      maxAutopilotScheduleLateness < now - planTime := by
  simp [isAutopilotSchedulePlanStale]

theorem FreshLast.getLast (fresh : FreshLast Fires start now occurrence)
    (lists : SearchLib.Lists Fires start now points) : points.getLast? = some occurrence :=
  lists.eq_last fresh.fires fresh.after fresh.past fresh.last

theorem plansLast_nil :
    PlansLast Fires start now [] ↔ ∀ occurrence, ¬ FreshLast Fires start now occurrence := by
  constructor
  · intro plans occurrence fresh
    cases plans.planned occurrence fresh
  · intro none
    exact ⟨fun occurrence fresh => absurd fresh (none occurrence), fun _ => rfl⟩

theorem mostRecent_stale {occurrences : List Int} {latestDue : Int}
    (last : occurrences.getLast? = some latestDue)
    (stale : maxAutopilotScheduleLateness < now - latestDue) : mostRecent now occurrences = [] := by
  simp only [mostRecent, last, stale_iff.mpr stale, if_true]

theorem mostRecent_lists (lists : SearchLib.Lists Fires start now points) :
    PlansLast Fires start now (mostRecent now points) := by
  cases ends : points.getLast? with
  | none =>
      simp only [mostRecent, ends, plansLast_nil]
      intro occurrence fresh
      rw [fresh.getLast lists] at ends
      cases ends
  | some last =>
      obtain ⟨fires, after, past, greatest⟩ := lists.getLast_greatest ends
      by_cases stale : maxAutopilotScheduleLateness < now - last
      · rw [mostRecent_stale ends stale, plansLast_nil]
        intro occurrence fresh
        have same := fresh.getLast lists
        rw [ends, Option.some.injEq] at same
        have fresh := fresh.fresh
        omega
      · have answer : mostRecent now points = [last] := by
          simp only [mostRecent, ends, stale_iff, if_neg stale]
        rw [answer]
        refine ⟨fun occurrence fresh => ?_, fun none => ?_⟩
        · have same := fresh.getLast lists
          rw [ends, Option.some.injEq] at same
          rw [same]
        · exact absurd ⟨fires, after, past, greatest, by omega⟩ (none last)

theorem mostRecent_take (lists : SearchLib.Lists Fires start now points)
    (long : hardCap < points.length) :
    PlansLast Fires start now (mostRecent now (points.take hardCap)) ↔
      ∀ occurrence, ¬ FreshLast Fires start now occurrence := by
  have short : hardCap = 1024 := rfl
  obtain ⟨cut, ends⟩ : ∃ cut, (points.take hardCap).getLast? = some cut := by
    refine ⟨_, List.getLast?_eq_some_getLast (List.ne_nil_of_length_pos ?_)⟩
    rw [List.length_take]
    omega
  obtain ⟨last, lastOf⟩ : ∃ last, (points.drop hardCap).getLast? = some last := by
    refine ⟨_, List.getLast?_eq_some_getLast (List.ne_nil_of_length_pos ?_)⟩
    rw [List.length_drop]
    omega
  have whole : points.getLast? = some last := by
    rw [← List.take_append_drop hardCap points, List.getLast?_append, lastOf, Option.some_or]
  have before : cut < last := by
    have sorted := lists.sorted
    rw [← List.take_append_drop hardCap points] at sorted
    exact (List.pairwise_append.mp sorted).2.2 cut (List.mem_of_getLast? ends) last
      (List.mem_of_getLast? lastOf)
  constructor
  · intro plans occurrence fresh
    have answer := plans.planned occurrence fresh
    have same := fresh.getLast lists
    rw [whole, Option.some.injEq] at same
    simp only [mostRecent, ends] at answer
    split at answer
    · cases answer
    · rw [List.singleton_inj] at answer
      omega
  · intro none
    obtain ⟨fires, after, past, greatest⟩ := lists.getLast_greatest whole
    have tooLate : maxAutopilotScheduleLateness < now - last := by
      by_contra fresh
      exact none last ⟨fires, after, past, greatest, by omega⟩
    rw [mostRecent_stale ends (by omega), plansLast_nil]
    exact none

theorem mostRecent_lost (searches : SearchLib.Searches next limit Fires) {gone : Int}
    (nonneg : 0 ≤ gone) (earlier : gone + maxAutopilotScheduleLateness < now)
    (loses : SearchLib.Lost limit Fires gone) {cursor : Int} (zero : next cursor = 0) {room : Nat}
    (left : 0 < room) :
    mostRecent now (points ++ SearchLib.enumerate next now room cursor) = [] := by
  rw [maxAutopilotScheduleLateness, second] at earlier
  obtain ⟨rest, rfl⟩ : ∃ rest, room = rest + 1 := ⟨room - 1, by omega⟩
  have past : gone ≤ now := by omega
  obtain ⟨-, bounded⟩ := searches.enumerate_lost (Int.le_refl 0) loses nonneg past rest
  have entries : SearchLib.enumerate next now (rest + 1) cursor =
      0 :: SearchLib.enumerate next now rest 0 := by
    rw [SearchLib.enumerate, zero, if_neg (by omega)]
  obtain ⟨last, ends⟩ : ∃ last, (0 :: SearchLib.enumerate next now rest 0).getLast? = some last :=
    ⟨_, List.getLast?_eq_some_getLast (by simp)⟩
  have old : last ≤ gone := by
    rcases List.mem_cons.mp (List.mem_of_getLast? ends) with rfl | later
    · exact nonneg
    · exact bounded last later
  apply mostRecent_stale
  · rw [entries, List.getLast?_append, ends, Option.some_or]
  · rw [maxAutopilotScheduleLateness, second]
    omega

theorem mostRecent_enumerate (searches : SearchLib.Searches next limit Fires)
    (near : now ≤ limit start)
    (lostBefore : ∀ time, SearchLib.Lost limit Fires time →
      ∃ gone, 0 ≤ gone ∧ gone + maxAutopilotScheduleLateness < now ∧ SearchLib.Lost limit Fires gone) :
    PlansLast Fires start now (mostRecent now (SearchLib.enumerate next now hardCap start)) ↔
      ∀ occurrence, FreshLast Fires start now occurrence →
        (activations Fires start now).ncard ≤ hardCap ∧
        ((activations Fires start now).ncard < hardCap → now < next occurrence) := by
  obtain ⟨points, lists⟩ := SearchLib.exists_lists Fires start now
  have count : (activations Fires start now).ncard = points.length := lists.ncard
  rw [searches.enumerate_lists near lists hardCap, count]
  by_cases long : hardCap ≤ points.length
  · -- the cap ends the enumeration
    have full : hardCap - points.length = 0 := by omega
    rw [full, SearchLib.enumerate, List.append_nil]
    by_cases exactly : points.length = hardCap
    · rw [← exactly, List.take_length]
      refine iff_of_true (mostRecent_lists lists) fun occurrence fresh => ?_
      exact ⟨Nat.le_refl _, fun less => absurd less (Nat.lt_irrefl _)⟩
    · rw [mostRecent_take lists (by omega)]
      refine forall_congr' fun occurrence => ⟨fun none fresh => absurd fresh none, fun bound fresh => ?_⟩
      have short := (bound fresh).1
      omega
  · have whole : points.take hardCap = points := List.take_of_length_le (by omega)
    have ends : ∀ occurrence, FreshLast Fires start now occurrence →
        points.getLastD start = occurrence := by
      intro occurrence fresh
      rw [List.getLastD_eq_getLast?, fresh.getLast lists, Option.getD_some]
    rw [whole]
    by_cases stops : now < next (points.getLastD start)
    · -- the search finds the activation after the last one
      have nothing : SearchLib.enumerate next now (hardCap - points.length) (points.getLastD start) =
          [] := by
        obtain ⟨room, more⟩ : ∃ room, hardCap - points.length = room + 1 :=
          ⟨hardCap - points.length - 1, by omega⟩
        rw [more, SearchLib.enumerate, if_pos stops]
      rw [nothing, List.append_nil]
      refine iff_of_true (mostRecent_lists lists) fun occurrence fresh => ?_
      rw [← ends occurrence fresh]
      exact ⟨by omega, fun _ => stops⟩
    · -- the search has lost the schedule and starts over
      obtain ⟨zero, loses⟩ := (searches.next_none lists.remaining).resolve_left stops
      obtain ⟨gone, nonneg, earlier, goneLoses⟩ := lostBefore _ loses
      rw [mostRecent_lost searches nonneg earlier goneLoses zero (by omega), plansLast_nil]
      refine forall_congr' fun occurrence => ⟨fun none fresh => absurd fresh none, fun bound fresh => ?_⟩
      rw [← ends occurrence fresh] at bound fresh
      exact stops ((bound fresh).2 (by omega))

end Hook

theorem anchor_recent (config : TriggerConfig) (now : Int) (latest : Option LatestPlanInfo) :
    now - replayWindow ≤ anchor config now latest := by
  simp only [anchor]
  split <;> omega

/-- The hook plans the fresh last activation after the anchor exactly when at most 1024
activations lie after the anchor and, where the cap does not end the enumeration, `Next` still
finds the one after it. -/
theorem autopilot_plans_last_iff {Location : Type} (library : CronLibrary Location)
    (cache : TriggerCache) (scope : Scope) (now : Int) (latest : Option LatestPlanInfo)
    {config : TriggerConfig} (cached : cache scope.id = some config) {next limit : Int → Int}
    (parsed : parseCronSchedule library config.cronExpression config.timezone = .ok next)
    {Fires : Int → Prop} (searches : SearchLib.Searches next limit Fires)
    (reaches : ∀ time, time + replayWindow ≤ limit time)
    (lostBefore : ∀ time, SearchLib.Lost limit Fires time →
      ∃ gone, 0 ≤ gone ∧ gone + maxAutopilotScheduleLateness < now ∧ SearchLib.Lost limit Fires gone)
    (settled : ∀ info, latest = some info → info.retryEligible now = false) :
    (∃ plans, autopilotPlansForScope library cache scope now latest = .ok plans ∧
        PlansLast Fires (anchor config now latest) now plans) ↔
      ∀ occurrence, FreshLast Fires (anchor config now latest) now occurrence →
        (activations Fires (anchor config now latest) now).ncard ≤ hardCap ∧
        ((activations Fires (anchor config now latest) now).ncard < hardCap →
          now < next occurrence) := by
  have noRetry : (latest.filter fun info => info.retryEligible now) = none := by
    cases latest with
    | none => rfl
    | some info => simp [Option.filter, settled info rfl]
  have near : now ≤ limit (anchor config now latest) := by
    have recent := anchor_recent config now latest
    have far := reaches (anchor config now latest)
    omega
  have answer : autopilotPlansForScope library cache scope now latest =
      .ok (mostRecent now (SearchLib.enumerate next now hardCap (anchor config now latest))) := by
    simp only [autopilotPlansForScope, cached, noRetry, nextOccurrencesUTC, parsed]
  rw [← mostRecent_enumerate searches near lostBefore, answer]
  constructor
  · rintro ⟨plans, same, right⟩
    rw [Except.ok.injEq] at same
    rw [same]
    exact right
  · intro right
    exact ⟨_, rfl, right⟩

/-! A trigger that fires every minute: two minutes after its last plan, and two days after it
was created without having fired. -/

def nextMinute (time : Int) : Int := (time / minute + 1) * minute

def EveryMinute (time : Int) : Prop := time % minute = 0

instance : DecidablePred EveryMinute := fun time => inferInstanceAs (Decidable (time % minute = 0))

def fiveYears (time : Int) : Int := time + 5 * 365 * 24 * 3600 * second

def minuteLibrary : CronLibrary Unit where
  parse expression := if expression = "* * * * *" then some fun _ => nextMinute else none
  loadLocation timezone := if timezone = "UTC" then some () else none

theorem nextMinute_searches : SearchLib.Searches nextMinute fiveYears EveryMinute := by
  constructor
  · intro time _
    simp only [nextMinute, EveryMinute, fiveYears, minute, second]
    refine ⟨by omega, by omega, by omega, fun other fires later => by omega⟩
  · intro time zero
    simp only [nextMinute, EveryMinute, minute, second] at zero ⊢
    exact Or.inr ⟨by omega, by omega, fun other fires later => by omega⟩
  · intro early late before
    simp only [fiveYears, second]
    omega

theorem nextMinute_never_lost (time : Int) : ¬ SearchLib.Lost fiveYears EveryMinute time := by
  intro lost
  have beyond := lost (nextMinute time)
  simp only [nextMinute, EveryMinute, fiveYears, minute, second] at beyond
  omega

def triggerScope : Scope := ⟨scopeKindAutopilotTrigger, "trigger"⟩

def presentDay : Int := 739000 * 24 * 3600 * second

def minuteTrigger : TriggerRow :=
  ⟨"trigger", some "* * * * *", none, some (presentDay - 2 * 24 * 3600 * second), none⟩

def minuteCache : TriggerCache := (autopilotScopes [minuteTrigger]).1

theorem minuteCache_config : minuteCache triggerScope.id = some minuteTrigger.config :=
  autopilotScopes_cached (by simp) List.mem_cons_self (by decide)

def earlierPlan : LatestPlanInfo := ⟨presentDay - 2 * minute, .success, 1, 3, none⟩

theorem autopilot_plans_last_iff_earlierPlan :
    ∃ plans, autopilotPlansForScope minuteLibrary minuteCache triggerScope presentDay
        (some earlierPlan) = .ok plans ∧
      PlansLast EveryMinute (presentDay - 2 * minute) presentDay plans := by
  have lists : SearchLib.Lists EveryMinute (presentDay - 2 * minute) presentDay
      [presentDay - minute, presentDay] := by
    refine ⟨by decide, fun point => ?_⟩
    simp only [EveryMinute, presentDay, minute, second, List.mem_cons, List.not_mem_nil, or_false]
    omega
  have count : (activations EveryMinute (presentDay - 2 * minute) presentDay).ncard = 2 := lists.ncard
  refine (autopilot_plans_last_iff minuteLibrary minuteCache triggerScope presentDay
    (some earlierPlan) minuteCache_config rfl nextMinute_searches (fun time => ?_)
    (fun time lost => absurd lost (nextMinute_never_lost time)) ?_).mpr fun occurrence fresh => ?_
  · simp only [fiveYears, replayWindow, second]
    omega
  · intro info same
    cases same
    rfl
  · have past := fresh.past
    have last := fresh.last presentDay (by decide) (Int.le_refl _)
    have same : occurrence = presentDay := Int.le_antisymm past last
    have anchored : anchor minuteTrigger.config presentDay (some earlierPlan) =
        presentDay - 2 * minute := by decide
    rw [anchored, count, same]
    exact ⟨by decide, fun _ => by decide⟩

/-- The enumeration ends after 1024 of the 1440 minutes, with an occurrence seven hours old. -/
theorem fresh_occurrence_missed :
    parseCronSchedule minuteLibrary minuteTrigger.config.cronExpression
        minuteTrigger.config.timezone = .ok nextMinute ∧
      SearchLib.Searches nextMinute fiveYears EveryMinute ∧
      minuteCache triggerScope.id = some minuteTrigger.config ∧
      ¬ ∃ plans, autopilotPlansForScope minuteLibrary minuteCache triggerScope presentDay none =
          .ok plans ∧
        PlansLast EveryMinute (anchor minuteTrigger.config presentDay none) presentDay plans := by
  refine ⟨rfl, nextMinute_searches, minuteCache_config, ?_⟩
  rintro ⟨plans, answer, right⟩
  have nothing : autopilotPlansForScope minuteLibrary minuteCache triggerScope presentDay none =
      .ok [] := by decide +kernel
  rw [nothing, Except.ok.injEq] at answer
  have fresh : FreshLast EveryMinute (anchor minuteTrigger.config presentDay none) presentDay
      presentDay :=
    ⟨by decide, by decide, Int.le_refl _, fun _ _ past => past, by decide⟩
  have planned := right.planned presentDay fresh
  rw [← answer] at planned
  cases planned

end MulticaOS.Scheduler
