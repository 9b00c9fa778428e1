import MulticaOS.Scheduler.Autopilot

/-!
The three enumerators of `cron.go` over one `Next`, and the next run that is shown after a
trigger has fired.  `Next` answers the zero time, which is 0 here, where it finds no activation
within its horizon.
-/

namespace MulticaOS.Scheduler

def nextOccurrenceAfterUTC {Location : Type} (library : CronLibrary Location)
    (cronExpr timezone : String) (after : Int) : Except CronError Int :=
  match parseCronSchedule library cronExpr timezone with
  | .error error => .error error
  | .ok next => .ok (next after)

def nextOccurrencesAfterUTC {Location : Type} (library : CronLibrary Location)
    (cronExpr timezone : String) (after : Int) (count : Nat) : Except CronError (List Int) :=
  match parseCronSchedule library cronExpr timezone with
  | .error error => .error error
  | .ok next => .ok (SearchLib.upcoming next count after)

def advancedNextRun {Location : Type} (library : CronLibrary Location)
    (cronExpr timezone : String) (planTime now : Int) : Option Int :=
  match nextOccurrenceAfterUTC library cronExpr timezone (if now < planTime then planTime else now) with
  | .error _ => none
  | .ok next => some next

/-- The enumerators list the first activations of their ranges, agree as far as both go, and answer nothing
that is not later than the instant that they are asked about. -/
structure EnumeratorsAgree {Location : Type} (library : CronLibrary Location) (cronExpr timezone : String)
    (Fires : Int → Prop) (after last : Int) (count : Nat) (planTime now : Int) : Prop where
  window : ∃ occurrences, nextOccurrencesUTC library cronExpr timezone after last = .ok occurrences ∧
    SearchLib.Firsts (fun point => Fires point ∧ after < point ∧ point ≤ last) hardCap occurrences
  upcoming : ∃ occurrences, nextOccurrencesAfterUTC library cronExpr timezone after count = .ok occurrences ∧
    SearchLib.Firsts (fun point => Fires point ∧ after < point) count occurrences
  agree : ∀ within ahead, nextOccurrencesUTC library cronExpr timezone after last = .ok within →
    nextOccurrencesAfterUTC library cronExpr timezone after count = .ok ahead →
    within.take ahead.length = ahead.take within.length
  next : ∀ occurrence, nextOccurrenceAfterUTC library cronExpr timezone after = .ok occurrence →
    after < occurrence
  advanced : ∀ occurrence, advancedNextRun library cronExpr timezone planTime now = some occurrence →
    planTime < occurrence ∧ now < occurrence

/-- `Next` still finds an activation after the instants that the enumerators ask it about, or there is none
to be listed. -/
structure KeepsFiring (limit : Int → Int) (Fires : Int → Prop) (after last : Int) (count : Nat)
    (planTime now : Int) : Prop where
  start : ¬ SearchLib.Lost limit Fires after
  window : ∀ point, Fires point → after < point → point ≤ last →
    (activations Fires after point).ncard < hardCap → ¬ SearchLib.Lost limit Fires point
  upcoming : ∀ point, Fires point → after < point → (activations Fires after point).ncard < count →
    SearchLib.Lost limit Fires point → ∀ later, Fires later → later ≤ point
  advanced : ¬ SearchLib.Lost limit Fires (max planTime now)

theorem next_later_iff {next limit : Int → Int} {Fires : Int → Prop} {time : Int}
    (searches : SearchLib.Searches next limit Fires) (nonneg : 0 ≤ time) :
    time < next time ↔ ¬ SearchLib.Lost limit Fires time := by
  constructor
  · intro later lost
    rw [searches.next_lost lost] at later
    omega
  · exact fun kept => (searches.next_found nonneg kept).2.2.1

/-- The enumerators agree and stay in range exactly when the schedule keeps firing. -/
theorem enumerators_agree_iff {Location : Type} (library : CronLibrary Location) (cronExpr timezone : String)
    {next limit : Int → Int} (parsed : parseCronSchedule library cronExpr timezone = .ok next)
    {Fires : Int → Prop} (searches : SearchLib.Searches next limit Fires) {after last : Int} (count : Nat)
    {planTime now : Int} (ordered : after ≤ last) (afterZero : 0 ≤ after) (nowAfterZero : 0 ≤ now) :
    EnumeratorsAgree library cronExpr timezone Fires after last count planTime now ↔
      KeepsFiring limit Fires after last count planTime now := by
  have latest : (if now < planTime then planTime else now) = max planTime now := by
    split <;> omega
  have answer : nextOccurrenceAfterUTC library cronExpr timezone after = .ok (next after) := by
    simp only [nextOccurrenceAfterUTC, parsed]
  have advances : advancedNextRun library cronExpr timezone planTime now = some (next (max planTime now)) := by
    simp only [advancedNextRun, nextOccurrenceAfterUTC, parsed, latest]
  have lists : nextOccurrencesUTC library cronExpr timezone after last =
      .ok (SearchLib.enumerate next last hardCap after) := by
    simp only [nextOccurrencesUTC, parsed]
  have follows : nextOccurrencesAfterUTC library cronExpr timezone after count =
      .ok (SearchLib.upcoming next count after) := by
    simp only [nextOccurrencesAfterUTC, parsed]
  have beyond : max planTime now < next (max planTime now) ↔
      ¬ SearchLib.Lost limit Fires (max planTime now) := next_later_iff searches (by omega)
  constructor
  · intro agree
    obtain ⟨window, same, firsts⟩ := agree.window
    obtain rfl := Except.ok.inj (lists.symm.trans same)
    obtain ⟨upcoming, same, aheads⟩ := agree.upcoming
    obtain rfl := Except.ok.inj (follows.symm.trans same)
    have keeps := (searches.enumerate_firsts afterZero ordered hardCap).mp firsts
    have lasts := (searches.upcoming_firsts afterZero count).mp aheads
    refine ⟨(next_later_iff searches afterZero).mp (agree.next _ answer), ?_, ?_, ?_⟩
    · exact fun point fires later within few => keeps point (Or.inr ⟨fires, later, within⟩) few
    · exact fun point fires later few => lasts point (Or.inr ⟨fires, later⟩) few
    · have later := agree.advanced _ advances
      exact beyond.mp (by omega)
  · intro keeps
    refine ⟨⟨_, lists, ?_⟩, ⟨_, follows, ?_⟩, ?_, ?_, ?_⟩
    · refine (searches.enumerate_firsts afterZero ordered hardCap).mpr ?_
      rintro point (rfl | ⟨fires, later, within⟩) few
      · exact keeps.start
      · exact keeps.window point fires later within few
    · refine (searches.upcoming_firsts afterZero count).mpr ?_
      rintro point (rfl | ⟨fires, later⟩) few lost
      · exact absurd lost keeps.start
      · exact keeps.upcoming point fires later few lost
    · intro within ahead same sameAhead
      obtain rfl := Except.ok.inj (lists.symm.trans same)
      obtain rfl := Except.ok.inj (follows.symm.trans sameAhead)
      exact SearchLib.enumerate_upcoming next last hardCap count after
    · intro occurrence same
      obtain rfl := Except.ok.inj (answer.symm.trans same)
      exact (next_later_iff searches afterZero).mpr keeps.start
    · intro occurrence same
      obtain rfl := Option.some.inj (advances.symm.trans same)
      have later := beyond.mpr keeps.advanced
      omega

theorem enumerators_agree_iff_everyMinute :
    EnumeratorsAgree minuteLibrary "* * * * *" "UTC" EveryMinute presentDay (presentDay + minute) 5
      presentDay presentDay := by
  refine (enumerators_agree_iff minuteLibrary "* * * * *" "UTC" rfl nextMinute_searches 5 (by decide)
    (by decide) (by decide)).mpr ⟨nextMinute_never_lost _, ?_, ?_, nextMinute_never_lost _⟩
  · exact fun point _ _ _ _ => nextMinute_never_lost point
  · exact fun point _ _ _ lost => absurd lost (nextMinute_never_lost point)

def neverLibrary : CronLibrary Unit where
  parse expression := if expression = "0 0 30 2 *" then some fun _ _ => 0 else none
  loadLocation timezone := if timezone = "UTC" then some () else none

theorem never_searches : SearchLib.Searches (fun _ => 0) fiveYears fun _ => False := by
  refine ⟨fun _ found => absurd rfl found, fun _ _ => Or.inl fun _ fires => fires.elim, ?_⟩
  intro early late before
  simp only [fiveYears, second]
  omega

/-- Of a schedule that never fires, the next day lists the zero time 1024 times, and the next run that is
shown is the zero time. -/
theorem enumerators_never :
    parseCronSchedule neverLibrary "0 0 30 2 *" "UTC" = .ok (fun _ => 0) ∧
      SearchLib.Searches (fun _ => 0) fiveYears (fun _ => False) ∧
      nextOccurrencesUTC neverLibrary "0 0 30 2 *" "UTC" presentDay (presentDay + 24 * 3600 * second) =
        .ok (List.replicate hardCap 0) ∧
      advancedNextRun neverLibrary "0 0 30 2 *" "UTC" presentDay presentDay = some 0 ∧
      ¬ EnumeratorsAgree neverLibrary "0 0 30 2 *" "UTC" (fun _ => False) presentDay
        (presentDay + 24 * 3600 * second) 5 presentDay presentDay := by
  refine ⟨rfl, never_searches, by decide +kernel, by decide +kernel, ?_⟩
  intro agree
  have later := agree.next 0 (by decide +kernel)
  exact absurd later (by decide)

end MulticaOS.Scheduler
