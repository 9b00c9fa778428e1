import MulticaOS.Usage.Accounting

/-!
Once the writers are quiet, the ticks catch up: the hourly table becomes the aggregate of the raw rows.
-/

namespace MulticaOS.Usage

open RollupLib
open RunLib

/-- Every stamp that a window has to pass is before `bound`. -/
structure Bounded (bound : Time) (state : State) : Prop where
  rows : ∀ row ∈ (source state).rows, row.event < bound
  queued : ∀ key enqueuedAt, state.rollup.queued key = some enqueuedAt → enqueuedAt < bound

def ticks (times : List Time) : List Event := times.map fun now => ⟨now, .tick true⟩

section Ticks

variable {state : State} {bound now : Time}

theorem rollupTick_source (now : Time) : source (rollupTick now state) = source state := by
  rw [rollupTick]
  split
  · rw [source_setWatermark, window_source]
  · rfl

theorem queued_setWatermark (watermarkAt : Time) :
    (setWatermark watermarkAt state).rollup.queued = state.rollup.queued := rfl

theorem rollupTick_queued {key : Key} {enqueuedAt : Time}
    (queued : (rollupTick now state).rollup.queued key = some enqueuedAt) :
    state.rollup.queued key = some enqueuedAt ∧
      (state.rollup.watermark < tickEnd now state.rollup.watermark → tickEnd now state.rollup.watermark ≤ enqueuedAt) := by
  rw [rollupTick] at queued
  split at queued
  · rw [queued_setWatermark, window_rollup] at queued
    exact window_queued queued
  · rename_i stays
    exact ⟨queued, fun forward => absurd forward stays⟩

theorem rollupTick_watermark (behind : state.rollup.watermark < bound) (late : bound + minutes 5 ≤ now) :
    (rollupTick now state).rollup.watermark = tickEnd now state.rollup.watermark ∧
      state.rollup.watermark < tickEnd now state.rollup.watermark ∧
      (bound ≤ tickEnd now state.rollup.watermark ∨
        state.rollup.watermark + days 1 ≤ tickEnd now state.rollup.watermark) := by
  have day : 0 < days 1 := by decide +kernel
  have reaches : bound ≤ tickEnd now state.rollup.watermark ∨
      state.rollup.watermark + days 1 ≤ tickEnd now state.rollup.watermark := by
    rw [tickEnd]
    rcases Nat.le_total (now - minutes 5) (state.rollup.watermark + days 1) with near | far
    · rw [Nat.min_eq_left near]
      exact .inl (Nat.le_sub_of_add_le late)
    · rw [Nat.min_eq_right far]
      exact .inr (Nat.le_refl _)
  have forward : state.rollup.watermark < tickEnd now state.rollup.watermark :=
    reaches.elim (Nat.lt_of_lt_of_le behind) (Nat.lt_of_lt_of_le (Nat.lt_add_of_pos_right day))
  rw [rollupTick, if_pos forward, watermark_setWatermark]
  exact ⟨rfl, forward, reaches⟩

/-- The window that reaches the bound empties the queue. -/
theorem rollupTick_empties (bounded : Bounded bound state) (behind : state.rollup.watermark < bound)
    (late : bound + minutes 5 ≤ now) (reached : bound ≤ (rollupTick now state).rollup.watermark) (key : Key) :
    (rollupTick now state).rollup.queued key = none := by
  obtain ⟨ends, forward, -⟩ := rollupTick_watermark behind late
  rw [Option.eq_none_iff_forall_ne_some]
  intro enqueuedAt queued
  obtain ⟨before, late⟩ := rollupTick_queued queued
  exact absurd (late forward) (Nat.not_le_of_gt (Nat.lt_of_lt_of_le (bounded.queued key enqueuedAt before) (ends ▸ reached)))

theorem rollupTick_forward (now : Time) : state.rollup.watermark ≤ (rollupTick now state).rollup.watermark := by
  rw [rollupTick]
  split
  · rename_i forward
    exact Nat.le_of_lt forward
  · exact Nat.le_refl _

theorem step_tick (retained : Allowed state ⟨now, .tick true⟩) :
    step state ⟨now, .tick true⟩ = { rollupTick now state with clock := now } := by
  show { rollupTaskUsageHourly now true state with clock := now } = _
  rw [rollupTaskUsageHourly, if_pos rfl, prune_kept (retained.2 rfl)]

-- The next state is a variable here: the kernel would compute the window to compare two records.
theorem step_clock {event : Event} {next : State} (same : step state event = { next with clock := now }) :
    (step state event).rollup = next.rollup ∧ source (step state event) = source next := by
  rw [same]
  exact ⟨rfl, rfl⟩

theorem tick_rollup (retained : Allowed state ⟨now, .tick true⟩) :
    (step state ⟨now, .tick true⟩).rollup = (rollupTick now state).rollup ∧
      source (step state ⟨now, .tick true⟩) = source state := by
  obtain ⟨rollup, same⟩ := @step_clock state now _ (rollupTick now state) (step_tick retained)
  exact ⟨rollup, same.trans (rollupTick_source now)⟩

theorem tick_bounded (retained : Allowed state ⟨now, .tick true⟩) (bounded : Bounded bound state) :
    Bounded bound (step state ⟨now, .tick true⟩) := by
  obtain ⟨rollup, same⟩ := tick_rollup retained
  constructor
  · rw [same]
    exact bounded.rows
  · rw [rollup]
    exact fun key enqueuedAt queued => bounded.queued key enqueuedAt (rollupTick_queued queued).1

/-- Each tick moves the watermark a day on, or past the bound with the queue empty. -/
theorem ticks_settle {times : List Time} (invariant : Invariant state) (bounded : Bounded bound state)
    (retained : Every step Allowed state (ticks times)) (late : ∀ now ∈ times, bound + minutes 5 ≤ now)
    (behind : state.rollup.watermark < bound ∨ ∀ key, state.rollup.queued key = none)
    (enough : bound ≤ state.rollup.watermark + times.length * days 1) (key : Key) :
    Settled recomputed (source (run step state (ticks times))) (run step state (ticks times)).rollup key := by
  induction times generalizing state with
  | nil =>
      have reached : bound ≤ state.rollup.watermark := by simpa using enough
      exact (invariant.counted key).settled (behind.resolve_left (Nat.not_lt_of_le reached) key) fun row member =>
        Nat.lt_of_lt_of_le (bounded.rows row (mem_matching.mp member).1) reached
  | cons now rest ih =>
      obtain ⟨retained, later⟩ := retained
      have soon := late now List.mem_cons_self
      rw [ticks, List.map_cons, run_cons]
      refine ih (step_invariant invariant retained trivial) (tick_bounded retained bounded) later
        (fun now member => late now (List.mem_cons_of_mem _ member)) ?_ ?_
      · rw [(tick_rollup retained).1]
        rcases behind with behind | empty
        · refine or_iff_not_imp_left.mpr fun reached => ?_
          exact rollupTick_empties bounded behind soon (Nat.le_of_not_lt reached)
        · refine .inr fun key => Option.eq_none_iff_forall_ne_some.mpr fun enqueuedAt queued => ?_
          exact absurd ((empty key).symm.trans (rollupTick_queued queued).1) nofun
      · rw [List.length_cons, Nat.add_mul, Nat.one_mul] at enough
        rw [(tick_rollup retained).1]
        rcases Nat.lt_or_ge state.rollup.watermark bound with behind | reached
        · obtain ⟨ends, -, past | day⟩ := rollupTick_watermark behind soon <;> rw [ends]
          · exact Nat.le_add_right_of_le past
          · exact Nat.le_trans (Nat.le_trans enough (by rw [Nat.add_comm (_ * _), ← Nat.add_assoc])) (Nat.add_le_add_right day _)
        · exact Nat.le_add_right_of_le (Nat.le_trans reached (rollupTick_forward now))

end Ticks

/-- After any run, late ticks make each hourly row the aggregate of its raw rows. `bound` is a time after all
that was written; there are ticks for every day from the watermark up to it. -/
theorem ticks_catch_up (start : State) (migrated : Migrated start) (events : List Event) {times : List Time}
    (allowed : Every step Allowed start (events ++ ticks times)) (covered : Every step Covered start events)
    {bound : Time} (bounded : Bounded bound (run step start events))
    (behind : (run step start events).rollup.watermark < bound) (late : ∀ now ∈ times, bound + minutes 5 ≤ now)
    (enough : bound ≤ (run step start events).rollup.watermark + times.length * days 1) (key : Key) :
    Settled recomputed (source (run step start (events ++ ticks times)))
      (run step start (events ++ ticks times)).rollup key := by
  obtain ⟨allowed, retained⟩ := every_append.mp allowed
  have always := always_of_invariant (migrated_invariant migrated)
    (fun state event invariant conditions => step_invariant invariant conditions.1 conditions.2)
    (allowed.and covered)
  rw [run_append]
  exact ticks_settle always.last bounded retained late (.inl behind) enough key

theorem firstUsage_caught_up :
    Settled recomputed (source (run step emptyState (firstUsage ++ ticks [days 20000 + minutes 10])))
      (run step emptyState (firstUsage ++ ticks [days 20000 + minutes 10])).rollup firstKey := by
  have idle : ∀ key, (run step emptyState firstUsage).rollup.queued key = none := fun _ => rfl
  refine @ticks_catch_up emptyState emptyState_migrated firstUsage [days 20000 + minutes 10] ?_ firstUsage_covered
    (days 20000 + minutes 2) ⟨by decide +kernel, fun key enqueuedAt queued => ?_⟩ (by decide +kernel)
    (by decide +kernel) (by decide +kernel) firstKey
  · refine every_append.mpr ⟨(every_append.mp firstUsage_allowed).1,
      ⟨by decide +kernel, fun _ key enqueuedAt queued => ?_⟩, trivial⟩
    exact absurd ((idle key).symm.trans (rollupTick_queued queued).1) nofun
  · exact absurd ((idle key).symm.trans queued) nofun

end MulticaOS.Usage
