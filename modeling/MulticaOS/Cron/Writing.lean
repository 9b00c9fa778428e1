import MulticaOS.Cron.Fields

/-!
What the server reads in the fields that `toCron` writes.
-/

namespace MulticaOS.Cron

open TextLib

def isFieldChar (char : Char) : Bool :=
  char.isDigit || char = '*' || char = '/' || char = '-' || char = ','

def IsFieldText (text : Text) : Prop := text ≠ [] ∧ ∀ char ∈ text, isFieldChar char = true

theorem IsFieldText.isWord {text : Text} (isField : IsFieldText text) : IsWord text := by
  refine ⟨isField.1, fun char member => ?_⟩
  have allowed := isField.2 char member
  simp only [isFieldChar, Bool.or_eq_true, decide_eq_true_eq] at allowed
  rcases allowed with (((digit | rfl) | rfl) | rfl) | rfl
  · exact isSpace_of_isDigit digit
  all_goals decide

theorem IsFieldText.notPrefix {text : Text} (isField : IsFieldText text) (rest : Text) :
    hasTimezonePrefix (text ++ rest) = false := by
  obtain ⟨first, others, rfl⟩ := List.exists_cons_of_ne_nil isField.1
  have allowed := isField.2 first (by simp)
  have notT : first ≠ 'T' := by
    rintro rfl
    exact absurd allowed (by decide)
  have notC : first ≠ 'C' := by
    rintro rfl
    exact absurd allowed (by decide)
  simp [hasTimezonePrefix, List.isPrefixOf, Ne.symm notT, Ne.symm notC]

theorem isFieldText_decimal (value : Nat) : IsFieldText (decimal value) :=
  ⟨decimal_ne_nil value, fun char member => by simp [isFieldChar, decimal_digits member]⟩

theorem IsFieldText.append {left right : Text} {separator : Char} (leftField : IsFieldText left)
    (allowed : isFieldChar separator = true) (rightField : IsFieldText right) :
    IsFieldText (left ++ separator :: right) := by
  refine ⟨by simp, fun char member => ?_⟩
  rcases List.mem_append.mp member with inLeft | inRight
  · exact leftField.2 char inLeft
  · rcases List.mem_cons.mp inRight with rfl | later
    · exact allowed
    · exact rightField.2 char later

theorem isFieldText_star : IsFieldText ['*'] := by
  refine ⟨by simp, fun char member => ?_⟩
  rw [List.mem_singleton.mp member]
  decide

def stepText (ends : Text) (step : Nat) : Text :=
  if step = 1 then ends else ends ++ '/' :: decimal step

def spanText (low high : Nat) : Text := decimal low ++ '-' :: decimal high

theorem isFieldText_spanText (low high : Nat) : IsFieldText (spanText low high) :=
  (isFieldText_decimal low).append (by decide) (isFieldText_decimal high)

theorem isFieldText_stepText {ends : Text} (isField : IsFieldText ends) (step : Nat) :
    IsFieldText (stepText ends step) := by
  rw [stepText]
  split
  · exact isField
  · exact isField.append (by decide) (isFieldText_decimal step)

section Agreeing

variable {editor : FieldBounds} {server : Reference.Bounds}

theorem atoi_decimal (value : Nat) : Reference.atoi (decimal value) = some value := by
  have digits : (decimal value).all Char.isDigit = true :=
    List.all_eq_true.mpr fun char member => decimal_digits member
  rw [Reference.atoi, unsigned_of_digits digits, if_pos (isNumeral_decimal value), numeral_decimal]

theorem parseIntOrName_decimal (agree : Agree editor server) (value : Nat) :
    Reference.parseIntOrName (decimal value) server = some value := by
  obtain ⟨char, member⟩ := List.exists_mem_of_ne_nil _ (decimal_ne_nil value)
  have code := digit_code (decimal_digits member)
  rw [Reference.parseIntOrName,
    serverLookup_none agree member (lowerLetter_other (by omega) (by omega))]
  exact atoi_decimal value

theorem decimal_ne_wildcard (value : Nat) : ¬(decimal value = ['*'] ∨ decimal value = ['?']) := by
  rintro (star | question)
  · exact @notMem_decimal value '*' (by decide) (star ▸ List.mem_singleton_self '*')
  · exact @notMem_decimal value '?' (by decide) (question ▸ List.mem_singleton_self '?')

theorem getEnds_star (agree : Agree editor server) (stepped : Bool) :
    Reference.getEnds ['*'] stepped server = some (editor.min, editor.max, true) := by
  have whole : ['*'].splitOn '-' = [['*']] := List.splitOn_eq_singleton (by decide)
  simp [Reference.getEnds, whole, agree.min, agree.max]

theorem getEnds_decimal (agree : Agree editor server) (value : Nat) :
    Reference.getEnds (decimal value) false server = some (value, value, false) := by
  have whole : (decimal value).splitOn '-' = [decimal value] :=
    List.splitOn_eq_singleton (notMem_decimal (by decide))
  simp only [Reference.getEnds, whole, if_neg (decimal_ne_wildcard value),
    parseIntOrName_decimal agree]
  rfl

theorem getEnds_spanText (agree : Agree editor server) (low high : Nat) (stepped : Bool) :
    Reference.getEnds (spanText low high) stepped server = some (low, high, false) := by
  have dash : ∀ value, '-' ∉ decimal value := fun value => notMem_decimal (by decide)
  have pieces : (spanText low high).splitOn '-' = [decimal low, decimal high] := by
    rw [spanText, List.splitOn_append_cons_self_of_not_mem (dash low),
      List.splitOn_eq_singleton (dash high)]
  simp only [Reference.getEnds, pieces, if_neg (decimal_ne_wildcard low),
    parseIntOrName_decimal agree]

theorem getStep_decimal {step : Nat} (positive : 1 ≤ step) :
    Reference.getStep (some (decimal step)) = some step := by
  simp only [Reference.getStep, atoi_decimal]
  rw [if_neg (by omega)]

theorem getRange_stepText (agree : Agree editor server) {ends : Text} {low high step : Nat}
    {star : Bool} (slash : '/' ∉ ends) (nonempty : ends ≠ []) (positive : 1 ≤ step)
    (read : Reference.getEnds ends (decide (step ≠ 1)) server = some (low, high, star))
    (inside : editor.min ≤ low ∧ low ≤ high ∧ high ≤ editor.max) :
    Reference.getRange (stepText ends step) server =
      some { values := loopValues low high step, star := star && step = 1 } := by
  have outside : ¬(low < server.min ∨ server.max < high ∨ high < low) := by
    rw [agree.min, agree.max]
    omega
  by_cases single : step = 1
  · subst single
    have whole : (stepText ends 1).splitOn '/' = [ends] := List.splitOn_eq_singleton slash
    simp only [ne_eq, not_true_eq_false, decide_false] at read
    simp [Reference.getRange, whole, nonempty, Reference.getStep, read, outside]
  · have pieces : (stepText ends step).splitOn '/' = [ends, decimal step] := by
      rw [stepText, if_neg single, List.splitOn_append_cons_self_of_not_mem slash,
        List.splitOn_eq_singleton (notMem_decimal (by decide))]
    simp only [ne_eq, single, not_false_eq_true, decide_true] at read
    simp [Reference.getRange, pieces, nonempty, getStep_decimal positive, read, outside]

theorem listElements_single {text : Text} (nonempty : text ≠ []) (free : ',' ∉ text) :
    listElements text = [text] := by
  rw [listElements, List.splitOn_eq_singleton free]
  simp [nonempty]

theorem parseField_single {text : Text} {field : Reference.Field} (nonempty : text ≠ [])
    (free : ',' ∉ text) (read : Reference.getRange text server = some field) :
    Reference.parseField text server = some field := by
  have readAll : [text].mapM (Reference.getRange · server) = some [field] :=
    ListLib.mapM_cons_of_some read List.mapM_nil
  rw [Reference.parseField, listElements_single nonempty free, readAll]
  simp

structure Writes (text : Text) (server : Reference.Bounds) (ranges : List RangePart) : Prop where
  isField : IsFieldText text
  reads : ∃ field, Reference.parseField text server = some field ∧
    ∀ value, value ∈ field.values ↔ value ∈ (rangesField ranges).values

theorem mem_rangesField_single {range : RangePart} {value : Nat} :
    value ∈ (rangesField [range]).values ↔ value ∈ range.field.values := by
  simp [rangesField]

theorem writes_single {text : Text} {field : Reference.Field} {range : RangePart}
    (isField : IsFieldText text) (free : ',' ∉ text)
    (read : Reference.getRange text server = some field)
    (same : ∀ value, value ∈ field.values ↔ value ∈ range.field.values) :
    Writes text server [range] :=
  ⟨isField, field, parseField_single isField.1 free read,
    fun value => (same value).trans mem_rangesField_single.symm⟩

theorem comma_notMem_stepText {ends : Text} (free : ',' ∉ ends) (step : Nat) :
    ',' ∉ stepText ends step := by
  rw [stepText]
  split
  · exact free
  · simp only [List.mem_append, List.mem_cons, not_or]
    exact ⟨free, by decide, notMem_decimal (by decide)⟩

theorem notMem_spanText {char : Char} (notDigit : char.isDigit = false) (notDash : char ≠ '-')
    (low high : Nat) : char ∉ spanText low high := by
  simp only [spanText, List.mem_append, List.mem_cons, not_or]
  exact ⟨notMem_decimal notDigit, notDash, notMem_decimal notDigit⟩

theorem writes_star (agree : Agree editor server) {range : RangePart} (valid : range.Valid editor)
    (low : range.lo = editor.min) (high : range.hi = editor.max) :
    Writes (stepText ['*'] range.step) server [range] := by
  have span := agree.span
  refine writes_single (isFieldText_stepText isFieldText_star _)
    (comma_notMem_stepText (by decide) _)
    (getRange_stepText agree (by decide) (by decide) valid.positive (getEnds_star agree _) (by omega))
    fun value => ?_
  simp only [RangePart.field, low, high]

theorem writes_span (agree : Agree editor server) {range : RangePart} (valid : range.Valid editor) :
    Writes (stepText (spanText range.lo range.hi) range.step) server [range] := by
  have low := valid.low
  have ordered := valid.ordered
  have high := valid.high
  exact writes_single (isFieldText_stepText (isFieldText_spanText _ _) _)
    (comma_notMem_stepText (notMem_spanText (by decide) (by decide) _ _) _)
    (getRange_stepText agree (notMem_spanText (by decide) (by decide) _ _)
      (isFieldText_spanText _ _).1 valid.positive (getEnds_spanText agree _ _ _) (by omega))
    fun value => Iff.rfl

theorem getRange_decimal (agree : Agree editor server) {value : Nat} (low : editor.min ≤ value)
    (high : value ≤ editor.max) :
    Reference.getRange (decimal value) server = some { values := [value], star := false } := by
  have read := getRange_stepText agree (notMem_decimal (by decide)) (decimal_ne_nil value)
    (Nat.le_refl 1) (getEnds_decimal agree value) ⟨low, Nat.le_refl _, high⟩
  have single : loopValues value value 1 = [value] := by
    rw [loopValues, loopFrom, if_pos (Nat.le_refl _)]
    cases value with
    | zero => rfl
    | succ before => simp [loopFrom]
  rw [single] at read
  exact read

theorem writes_value (agree : Agree editor server) {range : RangePart} (valid : range.Valid editor)
    (wide : range.hi - range.lo < range.step) : Writes (decimal range.lo) server [range] := by
  have low := valid.low
  have ordered := valid.ordered
  have high := valid.high
  refine writes_single (isFieldText_decimal _) (notMem_decimal (by decide))
    (getRange_decimal agree low (by omega)) fun value => ?_
  rw [RangePart.field, loopValues_wide ordered wide]
  simp

end Agreeing

theorem pad2_digits {value : Nat} {char : Char} (member : char ∈ pad2 value) :
    char.isDigit = true := by
  rcases List.mem_append.mp member with zeros | digits
  · rw [(List.mem_replicate.mp zeros).2]
    decide
  · exact decimal_digits digits

theorem numeral_zeros (count : Nat) (text : Text) :
    numeral (List.replicate count '0' ++ text) = numeral text := by
  induction count with
  | zero => rfl
  | succ count ih =>
      rw [List.replicate_succ, List.cons_append, numeral, Nat.ofDigitChars_cons]
      exact ih

theorem parseInt_pad2 (value : Nat) : parseInt (pad2 value) = value := by
  have digits : (pad2 value).takeWhile Char.isDigit = pad2 value :=
    List.takeWhile_eq_self_iff.mpr fun char member => pad2_digits member
  rw [parseInt, digits, pad2, numeral_zeros, numeral_decimal]

theorem colon_notMem_pad2 (value : Nat) : ':' ∉ pad2 value := by
  intro member
  exact absurd (pad2_digits member) (by decide)

theorem timeParts_clock (hour minute : Nat) : timeParts (clock hour minute) = (hour, minute) := by
  rw [timeParts, clock, List.splitOn_append_cons_self_of_not_mem (colon_notMem_pad2 hour),
    List.splitOn_eq_singleton (colon_notMem_pad2 minute)]
  simp only [parseInt_pad2]

theorem timeParts_hour (hour : Nat) {rest : Text} (minutes : ':' ∉ rest) :
    (timeParts (pad2 hour ++ ':' :: rest)).1 = hour := by
  rw [timeParts, List.splitOn_append_cons_self_of_not_mem (colon_notMem_pad2 hour),
    List.splitOn_eq_singleton minutes]
  simp only [parseInt_pad2]

theorem timeParts_windowStart (hour : Nat) : (timeParts (pad2 hour ++ ":00".toList)).1 = hour :=
  @timeParts_hour hour ['0', '0'] (by decide)

theorem timeParts_windowEnd (hour : Nat) : (timeParts (pad2 hour ++ ":59".toList)).1 = hour :=
  @timeParts_hour hour ['5', '9'] (by decide)

theorem plainValue_spec {editor : FieldBounds} {server : Reference.Bounds}
    (agree : Agree editor server) {field : Text} {value : Nat}
    (found : plainValue field editor = some value) :
    ∃ range, parseRangePart field editor = some range ∧ range.Valid editor ∧ range.lo = value ∧
      range.hi - range.lo < range.step := by
  rw [plainValue] at found
  split at found
  · contradiction
  · rename_i range read
    rw [Option.ite_none_left_eq_some, Option.some.injEq] at found
    obtain ⟨plain, same⟩ := found
    simp only [Bool.or_eq_true, not_or, Bool.not_eq_true] at plain
    have valid := parseRangePart_valid agree read
    have single := valid.bare plain.1.2 plain.1.1 plain.2
    have positive := valid.positive
    exact ⟨range, read, valid, same, by omega⟩

theorem parseHourPattern_spec {field : Text} {hour : HourPattern}
    (found : parseHourPattern field = some hour) :
    ∃ range, parseRangePart field hourBounds = some range ∧ range.Valid hourBounds ∧
      hour.interval = range.step ∧
      ((hour.range = none ∧ range.lo = hourBounds.min ∧ range.hi = hourBounds.max) ∨
        hour.range = some (range.lo, range.hi)) := by
  rw [parseHourPattern] at found
  split at found
  · contradiction
  · rename_i range read
    have valid := parseRangePart_valid hour_agree read
    rw [Option.ite_none_left_eq_some, Option.some.injEq] at found
    obtain ⟨-, rfl⟩ := found
    refine ⟨range, read, valid, rfl, ?_⟩
    dsimp only
    split
    · rename_i spans
      refine Or.inl ⟨rfl, ?_⟩
      simp only [Bool.or_eq_true, Bool.and_eq_true, decide_eq_true_eq] at spans
      rcases spans with wild | ends
      · exact valid.whole wild
      · exact ends
    · exact Or.inr rfl

theorem parseMinuteInterval_spec {field : Text} {interval : Nat}
    (found : parseMinuteInterval field = some interval) :
    ∃ range, parseRangePart field minuteBounds = some range ∧ range.Valid minuteBounds ∧
      range.step = interval ∧ range.lo = minuteBounds.min ∧ range.hi = minuteBounds.max := by
  rw [parseMinuteInterval] at found
  split at found
  · contradiction
  · rename_i range read
    have valid := parseRangePart_valid minute_agree read
    simp only [Option.ite_none_left_eq_some, Option.some.injEq] at found
    obtain ⟨bare, low, opened, same⟩ := found
    simp only [Bool.or_eq_true, not_or, Bool.not_eq_true, ne_eq, not_not, Bool.and_eq_true,
      Bool.not_eq_eq_eq_not, not_and] at bare low opened
    refine ⟨range, read, valid, same, low, ?_⟩
    cases stepped : range.stepped with
    | false => exact (valid.whole (by simpa using opened stepped)).2
    | true => exact valid.openEnd stepped bare.1

theorem timeFields_spec {minuteField hourField : Text} {time : TimePattern}
    (found : parseTimeFields minuteField hourField = some time) :
    ∃ minute hour, fieldRanges minuteField minuteBounds = some [minute] ∧
      fieldRanges hourField hourBounds = some [hour] ∧
      Writes (timeFields time).1 Reference.minuteBounds [minute] ∧
      Writes (timeFields time).2 Reference.hourBounds [hour] := by
  rw [parseTimeFields] at found
  split at found
  · rename_i plainMinute plain
    obtain ⟨minute, readMinute, validMinute, rfl, single⟩ := plainValue_spec minute_agree plain
    have writtenMinute := writes_value minute_agree validMinute single
    refine ⟨minute, ?_⟩
    split at found
    · rename_i plainHour plain
      obtain ⟨hour, readHour, validHour, rfl, singleHour⟩ := plainValue_spec hour_agree plain
      have writtenHour := writes_value hour_agree validHour singleHour
      rw [Option.some.injEq] at found
      subst found
      refine ⟨hour, fieldRanges_single minute_agree readMinute,
        fieldRanges_single hour_agree readHour, ?_, ?_⟩
      · simpa only [timeFields, timeParts_clock] using writtenMinute
      · simpa only [timeFields, timeParts_clock] using writtenHour
    · split at found
      · contradiction
      · rename_i pattern parsed
        obtain ⟨hour, readHour, validHour, interval, shape⟩ := parseHourPattern_spec parsed
        rw [Option.some.injEq] at found
        subst found
        refine ⟨hour, fieldRanges_single minute_agree readMinute,
          fieldRanges_single hour_agree readHour, ?_⟩
        rcases shape with ⟨wholeDay, low, high⟩ | ends
        · simp only [wholeDay, Option.map_none, timeFields, interval]
          exact ⟨writtenMinute, writes_star hour_agree validHour low high⟩
        · simp only [ends, Option.map_some, timeFields, timeParts_clock, interval]
          exact ⟨writtenMinute, writes_span hour_agree validHour⟩
  · split at found
    · contradiction
    · rename_i interval parsedMinute
      obtain ⟨minute, readMinute, validMinute, rfl, low, high⟩ :=
        parseMinuteInterval_spec parsedMinute
      have writtenMinute := writes_star minute_agree validMinute low high
      refine ⟨minute, ?_⟩
      split at found
      · contradiction
      · rename_i pattern parsed
        obtain ⟨hour, readHour, validHour, interval, shape⟩ := parseHourPattern_spec parsed
        refine ⟨hour, fieldRanges_single minute_agree readMinute,
          fieldRanges_single hour_agree readHour, ?_⟩
        rcases shape with ⟨wholeDay, low, high⟩ | ends
        · simp only [wholeDay, Option.ite_none_left_eq_some, Option.some.injEq] at found
          obtain ⟨hourly, rfl⟩ := found
          have writtenHour := writes_star hour_agree validHour low high
          rw [show hour.step = 1 by rw [← interval]; simpa using hourly] at writtenHour
          exact ⟨writtenMinute, writtenHour⟩
        · simp only [ends, Option.ite_none_left_eq_some, Option.some.injEq, interval] at found
          obtain ⟨either, rfl⟩ := found
          have positive := validHour.positive
          refine ⟨writtenMinute, ?_⟩
          simp only [timeFields, timeParts_windowStart, timeParts_windowEnd]
          by_cases oneHour : hour.hi - hour.lo < hour.step
          · simp only [gt_iff_lt, oneHour, if_true]
            exact writes_value hour_agree validHour oneHour
          · have hourly : hour.step = 1 := by simpa [oneHour] using either
            have different : hour.lo ≠ hour.hi := by omega
            have written := writes_span hour_agree validHour
            rw [hourly] at written
            simpa [oneHour, different, stepText, spanText] using written

theorem mem_sortedSet {days : List Nat} {day : Nat} : day ∈ sortedSet days ↔ day ∈ days := by
  simp [sortedSet]

theorem mem_runsFrom {rest : List Nat} {low high : Nat} (ordered : low ≤ high) :
    (∀ run ∈ runsFrom low high rest, run.1 ≤ run.2) ∧
      ∀ day, (∃ run ∈ runsFrom low high rest, run.1 ≤ day ∧ day ≤ run.2) ↔
        (low ≤ day ∧ day ≤ high) ∨ day ∈ rest := by
  induction rest generalizing low high with
  | nil => simp [runsFrom, ordered]
  | cons next rest ih =>
      rw [runsFrom]
      split
      · rename_i adjacent
        obtain ⟨orderedRuns, covered⟩ := @ih low next (by omega)
        refine ⟨orderedRuns, fun day => ?_⟩
        rw [covered, List.mem_cons]
        constructor
        · rintro (inside | later)
          · by_cases last : day = next
            · exact Or.inr (Or.inl last)
            · exact Or.inl ⟨inside.1, by omega⟩
          · exact Or.inr (Or.inr later)
        · rintro (inside | rfl | later)
          · exact Or.inl ⟨inside.1, by omega⟩
          · exact Or.inl ⟨by omega, Nat.le_refl _⟩
          · exact Or.inr later
      · obtain ⟨orderedRuns, covered⟩ := @ih next next (Nat.le_refl _)
        constructor
        · intro run member
          rcases List.mem_cons.mp member with rfl | later
          · exact ordered
          · exact orderedRuns run later
        · intro day
          have tail := covered day
          simp only [List.mem_cons, exists_eq_or_imp, tail]
          have single : next ≤ day ∧ day ≤ next ↔ day = next := by omega
          rw [single]

theorem consecutiveRuns_spec (days : List Nat) :
    (∀ run ∈ consecutiveRuns days, run.1 ≤ run.2) ∧
      ∀ day, (∃ run ∈ consecutiveRuns days, run.1 ≤ day ∧ day ≤ run.2) ↔ day ∈ days := by
  rw [consecutiveRuns]
  cases sorted : sortedSet days with
  | nil =>
      refine ⟨by simp, fun day => ?_⟩
      rw [← @mem_sortedSet days day, sorted]
      simp
  | cons first rest =>
      obtain ⟨ordered, covered⟩ := @mem_runsFrom rest first first (Nat.le_refl _)
      refine ⟨ordered, fun day => ?_⟩
      rw [covered, ← @mem_sortedSet days day, sorted, List.mem_cons]
      have single : first ≤ day ∧ day ≤ first ↔ day = first := by omega
      rw [single]

theorem isFieldText_runText (run : Nat × Nat) : IsFieldText (runText run) := by
  rw [runText]
  split
  · exact isFieldText_spanText run.1 run.2
  · exact isFieldText_decimal run.1

theorem comma_notMem_runText (run : Nat × Nat) : ',' ∉ runText run := by
  rw [runText]
  split
  · exact notMem_spanText (by decide) (by decide) run.1 run.2
  · exact notMem_decimal (by decide)

theorem getRange_runText {run : Nat × Nat} (ordered : run.1 ≤ run.2) (high : run.2 ≤ dowBounds.max) :
    ∃ field, Reference.getRange (runText run) Reference.dowBounds = some field ∧
      ∀ day, day ∈ field.values ↔ run.1 ≤ day ∧ day ≤ run.2 := by
  rw [runText]
  split
  · have read := getRange_stepText dow_agree (notMem_spanText (by decide) (by decide) run.1 run.2)
      (isFieldText_spanText _ _).1 (Nat.le_refl 1) (getEnds_spanText dow_agree run.1 run.2 _)
      ⟨Nat.zero_le _, ordered, high⟩
    refine ⟨_, read, fun day => ?_⟩
    rw [mem_loopValues (Nat.le_refl 1)]
    simp
  · have same : run.1 = run.2 := by omega
    refine ⟨_, getRange_decimal dow_agree (Nat.zero_le _) (by omega), fun day => ?_⟩
    simp only [List.mem_singleton]
    omega

theorem isFieldText_join {texts : List Text} (nonempty : texts ≠ [])
    (each : ∀ text ∈ texts, IsFieldText text) : IsFieldText (join ',' texts) := by
  induction texts with
  | nil => exact absurd rfl nonempty
  | cons first rest ih =>
      cases rest with
      | nil =>
          rw [join_singleton]
          exact each first (by simp)
      | cons second others =>
          rw [join_cons_cons]
          exact (each first (by simp)).append (by decide)
            (ih (by simp) fun text member => each text (List.mem_cons_of_mem _ member))

theorem mapM_runText {runs : List (Nat × Nat)}
    (each : ∀ run ∈ runs, run.1 ≤ run.2 ∧ run.2 ≤ dowBounds.max) :
    ∃ fields, (runs.map runText).mapM (Reference.getRange · Reference.dowBounds) = some fields ∧
      ∀ day, day ∈ fields.flatMap Reference.Field.values ↔
        ∃ run ∈ runs, run.1 ≤ day ∧ day ≤ run.2 := by
  induction runs with
  | nil => exact ⟨[], rfl, by simp⟩
  | cons run rest ih =>
      obtain ⟨ordered, high⟩ := each run (by simp)
      obtain ⟨field, read, values⟩ := getRange_runText ordered high
      obtain ⟨fields, readRest, restValues⟩ := ih fun run member => each run (by simp [member])
      refine ⟨field :: fields, ListLib.mapM_cons_of_some read readRest, fun day => ?_⟩
      simp only [List.flatMap_cons, List.mem_append, values, restValues, List.mem_cons,
        exists_eq_or_imp]

theorem writes_dowFieldFromDays {days : List Nat} {ranges : List RangePart} (nonempty : days ≠ [])
    (small : ∀ day ∈ days, day ≤ dowBounds.max)
    (same : ∀ day, day ∈ days ↔ day ∈ (rangesField ranges).values) :
    Writes (dowFieldFromDays days) Reference.dowBounds ranges := by
  obtain ⟨ordered, covered⟩ := consecutiveRuns_spec days
  have runsNonempty : (consecutiveRuns days).map runText ≠ [] := by
    obtain ⟨day, member⟩ := List.exists_mem_of_ne_nil days nonempty
    obtain ⟨run, listed, -⟩ := (covered day).mpr member
    exact List.ne_nil_of_mem (List.mem_map_of_mem listed)
  have pieces : (dowFieldFromDays days).splitOn ',' = (consecutiveRuns days).map runText := by
    refine splitOn_join runsNonempty fun text member => ?_
    obtain ⟨run, -, rfl⟩ := List.mem_map.mp member
    exact comma_notMem_runText run
  have elements : listElements (dowFieldFromDays days) = (consecutiveRuns days).map runText := by
    rw [listElements, pieces, List.filter_eq_self]
    intro text member
    obtain ⟨run, -, rfl⟩ := List.mem_map.mp member
    simpa using (isFieldText_runText run).1
  have bounded : ∀ run ∈ consecutiveRuns days, run.1 ≤ run.2 ∧ run.2 ≤ dowBounds.max :=
    fun run member => ⟨ordered run member,
      small _ ((covered run.2).mp ⟨run, member, ordered run member, Nat.le_refl _⟩)⟩
  obtain ⟨fields, read, values⟩ := mapM_runText bounded
  have readAll : Reference.parseField (dowFieldFromDays days) Reference.dowBounds =
      some { values := fields.flatMap Reference.Field.values
             star := fields.any Reference.Field.star } := by
    rw [Reference.parseField, elements, read]
  refine ⟨isFieldText_join runsNonempty fun text member => ?_, _, readAll, fun day => ?_⟩
  · obtain ⟨run, -, rfl⟩ := List.mem_map.mp member
    exact isFieldText_runText run
  · rw [values, covered, same]

theorem expandDow_spec {field : Text} {days : List Nat} (found : expandDow field = some days) :
    days ≠ [] ∧ ∃ ranges, fieldRanges field dowBounds = some ranges ∧
      (∀ day ∈ days, day ≤ dowBounds.max) ∧
      ∀ day, day ∈ days ↔ day ∈ (rangesField ranges).values := by
  rw [expandDow] at found
  split at found
  · contradiction
  · rename_i ranges read
    rw [Option.ite_none_left_eq_some, Option.some.injEq] at found
    obtain ⟨nonempty, rfl⟩ := found
    have same : ∀ day, day ∈ sortedSet (ranges.flatMap fun range =>
        loopValues range.lo range.hi range.step) ↔ day ∈ (rangesField ranges).values := by
      intro day
      rw [mem_sortedSet, mem_rangesField, List.mem_flatMap]
      rfl
    refine ⟨?_, ranges, read, ?_, same⟩
    · obtain ⟨day, member⟩ := List.exists_mem_of_ne_nil _ nonempty
      exact List.ne_nil_of_mem (mem_sortedSet.mpr member)
    · intro day member
      obtain ⟨range, listed, selected⟩ := mem_rangesField.mp ((same day).mp member)
      obtain ⟨part, -, parsed⟩ := ListLib.mem_of_mapM read listed
      have valid := parseRangePart_valid dow_agree parsed
      have high := valid.high
      have bounds := valid.mem_field.mp selected
      omega

theorem writes_wildcardPart {editor : FieldBounds} {server : Reference.Bounds}
    (agree : Agree editor server) : Writes ['*'] server [wildcardPart editor] :=
  writes_star agree (parseRangePart_valid agree (parseRangePart_star editor)) rfl rfl

theorem dayFields_spec {domField dowField : Text} {days : DayPattern}
    (found : parseDays domField dowField = some days) :
    ∃ dom dow, fieldRanges domField domBounds = some dom ∧
      fieldRanges dowField dowBounds = some dow ∧
      Writes (dayFields days).1 Reference.domBounds dom ∧
      Writes (dayFields days).2 Reference.dowBounds dow ∧
      ((dom = [wildcardPart domBounds] ∧ (dayFields days).1 = ['*']) ∨
        (dow = [wildcardPart dowBounds] ∧ (dayFields days).2 = ['*'])) := by
  have wholeDom := fieldRanges_single dom_agree (parseRangePart_star domBounds)
  have wholeDow := fieldRanges_single dow_agree (parseRangePart_star dowBounds)
  rw [parseDays] at found
  split at found
  · rename_i starDom
    subst starDom
    split at found
    · rename_i starDow
      subst starDow
      cases found
      exact ⟨_, _, wholeDom, wholeDow, writes_wildcardPart dom_agree, writes_wildcardPart dow_agree,
        Or.inl ⟨rfl, rfl⟩⟩
    · split at found
      · contradiction
      · rename_i daysOfWeek expanded
        cases found
        obtain ⟨nonempty, ranges, read, small, same⟩ := expandDow_spec expanded
        have written : (dayFields (.weekly daysOfWeek)).2 = dowFieldFromDays daysOfWeek := by
          simp [dayFields, List.length_pos_iff.mpr nonempty]
        rw [written]
        exact ⟨_, ranges, wholeDom, read, writes_wildcardPart dom_agree,
          writes_dowFieldFromDays nonempty small same, Or.inl ⟨rfl, rfl⟩⟩
  · split at found
    · contradiction
    · rename_i starDow
      rw [ne_eq, not_not] at starDow
      subst starDow
      split at found
      · contradiction
      · rename_i dayOfMonth plain
        cases found
        obtain ⟨range, read, valid, rfl, single⟩ := plainValue_spec dom_agree plain
        exact ⟨[range], _, fieldRanges_single dom_agree read, wholeDow,
          writes_value dom_agree valid single, writes_wildcardPart dow_agree, Or.inr ⟨rfl, rfl⟩⟩

end MulticaOS.Cron
