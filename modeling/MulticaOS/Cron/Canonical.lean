import MulticaOS.Cron.Soundness

/-!
The configurations that the structured editor means: clock times, intervals and windows
within the day, and days in one normal form.  Whatever `parseCron` structures is one.
-/

namespace MulticaOS.Cron

open TextLib

structure OpenWindow (lo hi : Nat) : Prop where
  ordered : lo ≤ hi
  high : hi ≤ hourBounds.max
  proper : ¬(lo = hourBounds.min ∧ hi = hourBounds.max)

inductive CanonicalTime : TimePattern → Prop where
  | at (hour minute : Nat) (hourHigh : hour ≤ hourBounds.max) (minuteHigh : minute ≤ minuteBounds.max) :
      CanonicalTime (.at (clock hour minute))
  | hours (interval minute : Nat) (positive : 1 ≤ interval) (intervalHigh : interval ≤ hourBounds.max)
      (minuteHigh : minute ≤ minuteBounds.max) : CanonicalTime (.every interval .hours none minute)
  | hoursWithin (interval minute lo hi : Nat) (positive : 1 ≤ interval)
      (intervalHigh : interval ≤ hourBounds.max) (minuteHigh : minute ≤ minuteBounds.max)
      (window : OpenWindow lo hi) :
      CanonicalTime (.every interval .hours (some ⟨clock lo minute, clock hi minute⟩) minute)
  | minutes (interval : Nat) (positive : 1 ≤ interval) (intervalHigh : interval ≤ minuteBounds.max) :
      CanonicalTime (.every interval .minutes none 0)
  | minutesWithin (interval lo hi : Nat) (positive : 1 ≤ interval)
      (intervalHigh : interval ≤ minuteBounds.max) (window : OpenWindow lo hi) :
      CanonicalTime (.every interval .minutes (some ⟨clock lo 0, clock hi 59⟩) 0)

inductive CanonicalDays : DayPattern → Prop where
  | every : CanonicalDays .every
  | weekly (daysOfWeek : List Nat) (nonempty : daysOfWeek ≠ []) (ascending : daysOfWeek.Pairwise (· < ·))
      (high : ∀ day ∈ daysOfWeek, day ≤ dowBounds.max) : CanonicalDays (.weekly daysOfWeek)
  | monthly (dayOfMonth : Nat) (low : domBounds.min ≤ dayOfMonth) (high : dayOfMonth ≤ domBounds.max) :
      CanonicalDays (.monthly dayOfMonth)

structure Canonical (config : ScheduleConfig) : Prop where
  raw : config.raw = none
  time : CanonicalTime config.time
  days : CanonicalDays config.days

theorem clock_hourStart (hour : Nat) : pad2 hour ++ ":00".toList = clock hour 0 := rfl

theorem clock_hourEnd (hour : Nat) : pad2 hour ++ ":59".toList = clock hour 59 := rfl

theorem plainValue_bounds {editor : FieldBounds} {server : Reference.Bounds} (agree : Agree editor server)
    {field : Text} {value : Nat} (found : plainValue field editor = some value) :
    editor.min ≤ value ∧ value ≤ editor.max := by
  obtain ⟨range, -, valid, rfl, -⟩ := plainValue_spec agree found
  exact ⟨valid.low, Nat.le_trans valid.ordered valid.high⟩

theorem parseHourPattern_canonical {field : Text} {hour : HourPattern}
    (found : parseHourPattern field = some hour) :
    (1 ≤ hour.interval ∧ hour.interval ≤ hourBounds.max) ∧
      ∀ lo hi, hour.range = some (lo, hi) → OpenWindow lo hi := by
  rw [parseHourPattern] at found
  split at found
  · contradiction
  · rename_i range read
    have valid := parseRangePart_valid hour_agree read
    rw [Option.ite_none_left_eq_some, Option.some.injEq] at found
    obtain ⟨narrow, rfl⟩ := found
    refine ⟨⟨valid.positive, by simpa using narrow⟩, fun lo hi ends => ?_⟩
    dsimp only at ends
    rw [Option.ite_none_left_eq_some, Option.some.injEq, Prod.mk.injEq] at ends
    obtain ⟨proper, rfl, rfl⟩ := ends
    refine ⟨valid.ordered, valid.high, fun whole => proper ?_⟩
    simp [whole]

theorem parseMinuteInterval_bounds {field : Text} {interval : Nat}
    (found : parseMinuteInterval field = some interval) :
    1 ≤ interval ∧ interval ≤ minuteBounds.max := by
  rw [parseMinuteInterval] at found
  split at found
  · contradiction
  · rename_i range read
    have valid := parseRangePart_valid minute_agree read
    simp only [Option.ite_none_left_eq_some, Option.some.injEq, Bool.or_eq_true, decide_eq_true_eq,
      not_or, Nat.not_lt] at found
    obtain ⟨⟨-, narrow⟩, -, -, rfl⟩ := found
    exact ⟨valid.positive, narrow⟩

theorem OpenWindow.firstHour {lo hi : Nat} (window : OpenWindow lo hi) : OpenWindow lo lo := by
  have ordered := window.ordered
  have high := window.high
  refine ⟨Nat.le_refl lo, by omega, ?_⟩
  rintro ⟨first, last⟩
  rw [first] at last
  exact absurd last (by decide)

theorem parseTimeFields_canonical {minuteField hourField : Text} {time : TimePattern}
    (found : parseTimeFields minuteField hourField = some time) : CanonicalTime time := by
  rw [parseTimeFields] at found
  split at found
  · rename_i minute plain
    obtain ⟨-, minuteHigh⟩ := plainValue_bounds minute_agree plain
    split at found
    · rename_i hour plainHour
      obtain ⟨-, hourHigh⟩ := plainValue_bounds hour_agree plainHour
      cases found
      exact .at hour minute hourHigh minuteHigh
    · split at found
      · contradiction
      · rename_i hour parsed
        obtain ⟨⟨positive, intervalHigh⟩, within⟩ := parseHourPattern_canonical parsed
        cases found
        cases ends : hour.range with
        | none => exact .hours hour.interval minute positive intervalHigh minuteHigh
        | some range =>
            obtain ⟨lo, hi⟩ := range
            exact .hoursWithin hour.interval minute lo hi positive intervalHigh minuteHigh
              (within lo hi ends)
  · split at found
    · contradiction
    · rename_i interval parsedMinute
      obtain ⟨positive, intervalHigh⟩ := parseMinuteInterval_bounds parsedMinute
      split at found
      · contradiction
      · rename_i hour parsed
        obtain ⟨-, within⟩ := parseHourPattern_canonical parsed
        split at found
        · rw [Option.ite_none_left_eq_some, Option.some.injEq] at found
          rw [← found.2]
          exact .minutes interval positive intervalHigh
        · rename_i lo hi ends
          have window := within lo hi ends
          rw [Option.ite_none_left_eq_some, Option.some.injEq] at found
          rw [← found.2, clock_hourStart, clock_hourEnd]
          by_cases oneHour : hour.interval > hi - lo
          · simpa [oneHour] using CanonicalTime.minutesWithin interval lo lo positive intervalHigh
              window.firstHour
          · simpa [oneHour] using CanonicalTime.minutesWithin interval lo hi positive intervalHigh window

theorem sortedSet_ascending (days : List Nat) : (sortedSet days).Pairwise (· < ·) := by
  have sorted : (sortedSet days).Pairwise (· ≤ ·) := List.pairwise_insertionSort (· ≤ ·) days.dedup
  have distinct : (sortedSet days).Nodup :=
    (List.perm_insertionSort (· ≤ ·) days.dedup).nodup_iff.mpr days.nodup_dedup
  exact (sorted.and distinct).imp fun ends => Nat.lt_of_le_of_ne ends.1 ends.2

theorem parseDays_canonical {domField dowField : Text} {days : DayPattern}
    (found : parseDays domField dowField = some days) : CanonicalDays days := by
  rw [parseDays] at found
  split at found
  · split at found
    · cases found
      exact .every
    · split at found
      · contradiction
      · rename_i daysOfWeek expanded
        obtain ⟨nonempty, ranges, -, high, -⟩ := expandDow_spec expanded
        cases found
        refine .weekly daysOfWeek nonempty ?_ high
        rw [expandDow] at expanded
        split at expanded
        · contradiction
        · rw [Option.ite_none_left_eq_some, Option.some.injEq] at expanded
          rw [← expanded.2]
          exact sortedSet_ascending _
  · split at found
    · contradiction
    · split at found
      · contradiction
      · rename_i dayOfMonth plain
        obtain ⟨low, high⟩ := plainValue_bounds dom_agree plain
        cases found
        exact .monthly dayOfMonth low high

theorem parseCron_canonical (canonicalPickerZone : Text → Option Text) {expr timezone : Text}
    (structured : (parseCron canonicalPickerZone expr timezone).raw = none) :
    Canonical (parseCron canonicalPickerZone expr timezone) := by
  obtain ⟨minute, hour, dom, month, dow, -, time, days, -⟩ :=
    parseCron_fields canonicalPickerZone structured
  exact ⟨structured, parseTimeFields_canonical time, parseDays_canonical days⟩

end MulticaOS.Cron
