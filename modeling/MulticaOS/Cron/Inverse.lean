import MulticaOS.Cron.Canonical

/-!
`parseCron` and `toCron` undo each other: a canonical configuration is read back from
what is written, and what was read, structured or not, is read again unchanged.
-/

namespace MulticaOS.Cron

open TextLib

/-! Written parts are what the four rewrites leave alone. -/

structure Normal (part : Text) : Prop where
  nonempty : part ≠ []
  free : ',' ∉ part
  kept : replaceNumerals [] (normalizeRange part) = part

theorem replaceNumerals_digits {text : Text} (digits : text.all Char.isDigit = true) (pending : Text) :
    replaceNumerals pending text = canonicalNumeral (pending ++ text) := by
  induction text generalizing pending with
  | nil => simp [replaceNumerals]
  | cons first rest ih =>
      simp only [List.all_cons, Bool.and_eq_true] at digits
      rw [replaceNumerals, if_pos digits.1, ih digits.2, List.append_assoc, List.singleton_append]

theorem replaceNumerals_decimal {value : Nat} (safe : value ≤ 2 ^ 53 - 1) :
    replaceNumerals [] (decimal value) = decimal value := by
  have digits : (decimal value).all Char.isDigit = true :=
    List.all_eq_true.mpr fun char member => decimal_digits member
  rw [replaceNumerals_digits digits, List.nil_append, canonicalNumeral, unsigned_of_digits digits,
    if_neg (decimal_ne_nil value), numeral_decimal, if_pos (by simpa [isSafeInteger] using safe)]

theorem normalizeRange_eq_self {part range : Text} {tails : List Text}
    (pieces : part.splitOn '/' = range :: tails) (same : normalizedEnds range = range) :
    normalizeRange part = part := by
  obtain ⟨other, others, before, after⟩ := splitOn_normalizeRange part
  rw [pieces, List.cons.injEq] at before
  obtain ⟨rfl, rfl⟩ := before
  rw [← join_splitOn '/' (normalizeRange part), after, same, ← pieces, join_splitOn]

theorem normal_stepText {ends : Text} {step : Nat} (nonempty : ends ≠ []) (comma : ',' ∉ ends)
    (slash : '/' ∉ ends) (same : normalizedEnds ends = ends) (kept : replaceNumerals [] ends = ends)
    (safe : step ≤ 2 ^ 53 - 1) : Normal (stepText ends step) := by
  refine ⟨(fun empty => ?_), comma_notMem_stepText comma step, ?_⟩
  · rw [stepText] at empty
    split at empty
    · exact nonempty empty
    · simp at empty
  · rw [stepText]
    split
    · rw [normalizeRange_eq_self (List.splitOn_eq_singleton slash) same, kept]
    · rw [normalizeRange_eq_self (List.splitOn_append_cons_self_of_not_mem slash _) same,
        replaceNumerals_separator slash_separates, kept, replaceNumerals_decimal safe]

theorem normal_star {step : Nat} (safe : step ≤ 2 ^ 53 - 1) : Normal (stepText ['*'] step) :=
  normal_stepText (by decide) (by decide) (by decide) (by decide) (by decide) safe

theorem normalizedEnds_decimal {value : Nat} {tails : List Text} {text : Text}
    (pieces : text.splitOn '-' = decimal value :: tails) : normalizedEnds text = text := by
  have other : isWildcardEnd (decimal value) = false := by
    simpa [isWildcardEnd] using decimal_ne_wildcard value
  simp [normalizedEnds, pieces, other]

theorem normal_decimal {value : Nat} (safe : value ≤ 2 ^ 53 - 1) : Normal (decimal value) := by
  have dash : (decimal value).splitOn '-' = [decimal value] :=
    List.splitOn_eq_singleton (notMem_decimal (by decide))
  have same := normalizedEnds_decimal dash
  exact @normal_stepText (decimal value) 1 (decimal_ne_nil value) (notMem_decimal (by decide))
    (notMem_decimal (by decide)) same (replaceNumerals_decimal safe) (by decide)

theorem splitOn_spanText (lo hi : Nat) : (spanText lo hi).splitOn '-' = [decimal lo, decimal hi] := by
  have dash : ∀ value, '-' ∉ decimal value := fun value => notMem_decimal (by decide)
  rw [spanText, List.splitOn_append_cons_self_of_not_mem (dash lo), List.splitOn_eq_singleton (dash hi)]

theorem normal_span {lo hi step : Nat} (loSafe : lo ≤ 2 ^ 53 - 1) (hiSafe : hi ≤ 2 ^ 53 - 1)
    (safe : step ≤ 2 ^ 53 - 1) : Normal (stepText (spanText lo hi) step) := by
  refine normal_stepText (isFieldText_spanText lo hi).1 (notMem_spanText (by decide) (by decide) lo hi)
    (notMem_spanText (by decide) (by decide) lo hi) (normalizedEnds_decimal (splitOn_spanText lo hi)) ?_ safe
  rw [spanText, replaceNumerals_separator dash_separates, replaceNumerals_decimal loSafe,
    replaceNumerals_decimal hiSafe]

theorem listElements_join {parts : List Text} (nonempty : parts ≠ []) (each : ∀ part ∈ parts, Normal part) :
    listElements (join ',' parts) = parts := by
  rw [listElements, splitOn_join nonempty fun part member => (each part member).free, List.filter_eq_self]
  intro part member
  simpa using (each part member).nonempty

theorem normalizeField_join {parts : List Text} (nonempty : parts ≠ [])
    (each : ∀ part ∈ parts, Normal part) : normalizeField (join ',' parts) = join ',' parts := by
  rw [normalizeField, listElements_join nonempty each,
    List.map_congr_left fun part member => (each part member).kept, List.map_id']

theorem Normal.normalizeField {part : Text} (normal : Normal part) : normalizeField part = part := by
  have joined := normalizeField_join (List.cons_ne_nil part []) (by simpa using normal)
  rwa [join_singleton] at joined

theorem parseRangePart_stepText {bounds : FieldBounds} {ends : Text} {step : Nat} (nonempty : ends ≠ [])
    (slash : '/' ∉ ends) (positive : 1 ≤ step) (safe : step ≤ 2 ^ 53 - 1) :
    parseRangePart (stepText ends step) bounds = parseRange ends step (decide (step ≠ 1)) bounds := by
  by_cases single : step = 1
  · subst single
    have whole : (stepText ends 1).splitOn '/' = [ends] := List.splitOn_eq_singleton slash
    simp [parseRangePart, whole, nonempty, parseStep]
  · have pieces : (stepText ends step).splitOn '/' = [ends, decimal step] := by
      rw [stepText, if_neg single, List.splitOn_append_cons_self_of_not_mem slash,
        List.splitOn_eq_singleton (notMem_decimal (by decide))]
    have read : parseStep (some (decimal step)) = some step := by
      have inside : ¬((!isSafeInteger step || decide (step < 1)) = true) := by
        simp only [isSafeInteger, Bool.or_eq_true, Bool.not_eq_true', decide_eq_false_iff_not,
          decide_eq_true_eq]
        omega
      simp only [parseStep, isNumeral_decimal, if_true, numeral_decimal, if_neg inside]
    simp [parseRangePart, pieces, nonempty, read, single]

def starPart (bounds : FieldBounds) (step : Nat) : RangePart :=
  { lo := bounds.min, hi := bounds.max, step, wildcard := true, stepped := decide (step ≠ 1),
    explicitRange := false }

def spanPart (lo hi step : Nat) : RangePart :=
  { lo, hi, step, wildcard := false, stepped := decide (step ≠ 1), explicitRange := true }

theorem parseRangePart_starStep (bounds : FieldBounds) {step : Nat} (positive : 1 ≤ step)
    (safe : step ≤ 2 ^ 53 - 1) :
    parseRangePart (stepText ['*'] step) bounds = some (starPart bounds step) := by
  rw [parseRangePart_stepText (by decide) (by decide) positive safe, parseRange, if_pos rfl, starPart]

theorem parseRangePart_span {editor : FieldBounds} {server : Reference.Bounds} (agree : Agree editor server)
    {lo hi step : Nat} (low : editor.min ≤ lo) (ordered : lo ≤ hi) (high : hi ≤ editor.max)
    (positive : 1 ≤ step) (safe : step ≤ 2 ^ 53 - 1) :
    parseRangePart (stepText (spanText lo hi) step) editor = some (spanPart lo hi step) := by
  have notStar : spanText lo hi ≠ ['*'] := by
    intro star
    have member : '-' ∈ spanText lo hi := by simp [spanText]
    rw [star] at member
    exact absurd member (by decide)
  rw [parseRangePart_stepText (isFieldText_spanText lo hi).1
    (notMem_spanText (by decide) (by decide) lo hi) positive safe, parseRange, if_neg notStar,
    splitOn_spanText]
  simp only [fieldValue_decimal agree low (Nat.le_trans ordered high),
    fieldValue_decimal agree (Nat.le_trans low ordered) high, Nat.not_lt.mpr ordered, if_false, spanPart]

theorem collapseWildcardList_single {bounds : FieldBounds} {part : Text} (free : ',' ∉ part) :
    collapseWildcardList part bounds = part := by
  rw [collapseWildcardList, List.splitOn_eq_singleton free]
  rfl

theorem collapseDegenerateRange_single {bounds : FieldBounds} {part : Text} {rangeSlot : Bool}
    (free : ',' ∉ part) :
    collapseDegenerateRange part bounds rangeSlot = collapsePart bounds rangeSlot part := by
  have whole : collapseDegenerateRange part bounds rangeSlot =
      join ',' ((part.splitOn ',').map (collapsePart bounds rangeSlot)) := rfl
  rw [whole, List.splitOn_eq_singleton free, List.map_singleton, join_singleton]

theorem rewrite_normal {bounds : FieldBounds} {part : Text} (normal : Normal part) (rangeSlot : Bool) :
    collapseDegenerateRange (collapseWildcardList (normalizeField part) bounds) bounds rangeSlot =
      collapsePart bounds rangeSlot part := by
  rw [normal.normalizeField, collapseWildcardList_single normal.free,
    collapseDegenerateRange_single normal.free]

theorem collapsePart_decimal {editor : FieldBounds} {server : Reference.Bounds} (agree : Agree editor server)
    {value : Nat} (low : editor.min ≤ value) (high : value ≤ editor.max) (rangeSlot : Bool) :
    collapsePart editor rangeSlot (decimal value) = decimal value := by
  simp only [collapsePart, parseRangePart_decimal agree low high, plainPart]
  repeat' split
  all_goals rfl

theorem collapsePart_star {bounds : FieldBounds} {step : Nat} (positive : 1 ≤ step)
    (narrow : step ≤ bounds.max - bounds.min) (safe : step ≤ 2 ^ 53 - 1) (rangeSlot : Bool) :
    collapsePart bounds rangeSlot (stepText ['*'] step) = stepText ['*'] step := by
  have inside : ¬(step > bounds.max - bounds.min) := Nat.not_lt.mpr narrow
  simp only [collapsePart, parseRangePart_starStep bounds positive safe, starPart, inside, if_false]
  repeat' split
  all_goals rfl

theorem collapsePart_span {editor : FieldBounds} {server : Reference.Bounds} (agree : Agree editor server)
    {lo hi step : Nat} (low : editor.min ≤ lo) (ordered : lo ≤ hi) (high : hi ≤ editor.max)
    (positive : 1 ≤ step) (narrow : step ≤ editor.max) (safe : step ≤ 2 ^ 53 - 1) :
    collapsePart editor true (stepText (spanText lo hi) step) = stepText (spanText lo hi) step := by
  simp only [collapsePart, parseRangePart_span agree low ordered high positive safe, spanPart, narrow]
  by_cases single : step = 1
  · simp [single]
  · simp [single]

theorem plainValue_decimal {editor : FieldBounds} {server : Reference.Bounds} (agree : Agree editor server)
    {value : Nat} (low : editor.min ≤ value) (high : value ≤ editor.max) :
    plainValue (decimal value) editor = some value := by
  rw [plainValue, parseRangePart_decimal agree low high]
  rfl

theorem plainValue_star {bounds : FieldBounds} {step : Nat} (positive : 1 ≤ step)
    (safe : step ≤ 2 ^ 53 - 1) : plainValue (stepText ['*'] step) bounds = none := by
  rw [plainValue, parseRangePart_starStep bounds positive safe]
  rfl

theorem parseHourPattern_star {step : Nat} (positive : 1 ≤ step) (narrow : step ≤ hourBounds.max) :
    parseHourPattern (stepText ['*'] step) = some ⟨step, none⟩ := by
  have safe : step ≤ 2 ^ 53 - 1 := Nat.le_trans narrow (by decide)
  rw [parseHourPattern, parseRangePart_starStep hourBounds positive safe]
  simp only [starPart, Nat.not_lt.mpr narrow, if_false, Bool.true_or, if_true]

theorem parseHourPattern_part {field : Text} {range : RangePart}
    (read : parseRangePart field hourBounds = some range) (narrow : range.step ≤ hourBounds.max)
    (written : range.wildcard = false) (window : OpenWindow range.lo range.hi) :
    parseHourPattern field = some ⟨range.step, some (range.lo, range.hi)⟩ := by
  have proper : ¬((range.wildcard || (range.lo = hourBounds.min && range.hi = hourBounds.max)) = true) := by
    simpa [written] using window.proper
  rw [parseHourPattern, read]
  dsimp only
  rw [if_neg (Nat.not_lt.mpr narrow), if_neg proper]

theorem parseHourPattern_span {lo hi step : Nat} (window : OpenWindow lo hi) (positive : 1 ≤ step)
    (narrow : step ≤ hourBounds.max) :
    parseHourPattern (stepText (spanText lo hi) step) = some ⟨step, some (lo, hi)⟩ := by
  have safe : step ≤ 2 ^ 53 - 1 := Nat.le_trans narrow (by decide)
  exact parseHourPattern_part (parseRangePart_span hour_agree (Nat.zero_le lo) window.ordered window.high
    positive safe) narrow rfl window

theorem plainValue_span {lo hi step : Nat} (window : OpenWindow lo hi) (positive : 1 ≤ step)
    (safe : step ≤ 2 ^ 53 - 1) : plainValue (stepText (spanText lo hi) step) hourBounds = none := by
  rw [plainValue, parseRangePart_span hour_agree (Nat.zero_le lo) window.ordered window.high positive safe]
  simp [spanPart]

theorem parseHourPattern_decimal {hour : Nat} (window : OpenWindow hour hour) :
    parseHourPattern (decimal hour) = some ⟨1, some (hour, hour)⟩ :=
  parseHourPattern_part (parseRangePart_decimal hour_agree (Nat.zero_le hour) window.high)
    (show 1 ≤ hourBounds.max by decide) rfl window

theorem parseMinuteInterval_star {step : Nat} (positive : 1 ≤ step) (narrow : step ≤ minuteBounds.max) :
    parseMinuteInterval (stepText ['*'] step) = some step := by
  have safe : step ≤ 2 ^ 53 - 1 := Nat.le_trans narrow (by decide)
  rw [parseMinuteInterval, parseRangePart_starStep minuteBounds positive safe]
  simp [starPart, Nat.not_lt.mpr narrow]

def readTime (fields : Text × Text) : Option TimePattern :=
  parseTimeFields (minuteRewrite (normalizeField fields.1)) (hourRewrite (normalizeField fields.2))

theorem minuteRewrite_decimal {minute : Nat} (high : minute ≤ minuteBounds.max) :
    minuteRewrite (normalizeField (decimal minute)) = decimal minute := by
  have safe : minute ≤ 2 ^ 53 - 1 := Nat.le_trans high (by decide)
  rw [minuteRewrite, rewrite_normal (normal_decimal safe),
    collapsePart_decimal minute_agree (Nat.zero_le minute) high]

theorem minuteRewrite_star {step : Nat} (positive : 1 ≤ step) (narrow : step ≤ minuteBounds.max) :
    minuteRewrite (normalizeField (stepText ['*'] step)) = stepText ['*'] step := by
  have safe : step ≤ 2 ^ 53 - 1 := Nat.le_trans narrow (by decide)
  have kept := @collapsePart_star minuteBounds step positive narrow safe false
  rw [minuteRewrite, rewrite_normal (normal_star safe), kept]

theorem hourRewrite_decimal {hour : Nat} (high : hour ≤ hourBounds.max) :
    hourRewrite (normalizeField (decimal hour)) = decimal hour := by
  have safe : hour ≤ 2 ^ 53 - 1 := Nat.le_trans high (by decide)
  rw [hourRewrite, rewrite_normal (normal_decimal safe),
    collapsePart_decimal hour_agree (Nat.zero_le hour) high]

theorem hourRewrite_star {step : Nat} (positive : 1 ≤ step) (narrow : step ≤ hourBounds.max) :
    hourRewrite (normalizeField (stepText ['*'] step)) = stepText ['*'] step := by
  have safe : step ≤ 2 ^ 53 - 1 := Nat.le_trans narrow (by decide)
  have kept := @collapsePart_star hourBounds step positive narrow safe true
  rw [hourRewrite, rewrite_normal (normal_star safe), kept]

theorem hourRewrite_span {lo hi step : Nat} (window : OpenWindow lo hi) (positive : 1 ≤ step)
    (narrow : step ≤ hourBounds.max) :
    hourRewrite (normalizeField (stepText (spanText lo hi) step)) = stepText (spanText lo hi) step := by
  have hiSafe : hi ≤ 2 ^ 53 - 1 := Nat.le_trans window.high (by decide)
  have safe : step ≤ 2 ^ 53 - 1 := Nat.le_trans narrow (by decide)
  rw [hourRewrite, rewrite_normal (normal_span (Nat.le_trans window.ordered hiSafe) hiSafe safe),
    collapsePart_span hour_agree (Nat.zero_le lo) window.ordered window.high positive narrow safe]

theorem CanonicalTime.read {time : TimePattern} (canonical : CanonicalTime time) :
    readTime (timeFields time) = some time := by
  cases canonical with
  | «at» hour minute hourHigh minuteHigh =>
      simp only [readTime, timeFields, timeParts_clock, minuteRewrite_decimal minuteHigh,
        hourRewrite_decimal hourHigh, parseTimeFields,
        plainValue_decimal minute_agree (Nat.zero_le minute) minuteHigh,
        plainValue_decimal hour_agree (Nat.zero_le hour) hourHigh]
  | hours interval minute positive intervalHigh minuteHigh =>
      have safe : interval ≤ 2 ^ 53 - 1 := Nat.le_trans intervalHigh (by decide)
      have written : timeFields (.every interval .hours none minute) =
          (decimal minute, stepText ['*'] interval) := rfl
      simp only [readTime, written, minuteRewrite_decimal minuteHigh,
        hourRewrite_star positive intervalHigh, parseTimeFields,
        plainValue_decimal minute_agree (Nat.zero_le minute) minuteHigh, plainValue_star positive safe,
        parseHourPattern_star positive intervalHigh, Option.map_none]
  | hoursWithin interval minute lo hi positive intervalHigh minuteHigh window =>
      have safe : interval ≤ 2 ^ 53 - 1 := Nat.le_trans intervalHigh (by decide)
      have written : timeFields (.every interval .hours (some ⟨clock lo minute, clock hi minute⟩) minute) =
          (decimal minute, stepText (spanText lo hi) interval) := by
        simp only [timeFields, timeParts_clock, stepText, spanText]
      simp only [readTime, written, minuteRewrite_decimal minuteHigh,
        hourRewrite_span window positive intervalHigh, parseTimeFields,
        plainValue_decimal minute_agree (Nat.zero_le minute) minuteHigh,
        plainValue_span window positive safe, parseHourPattern_span window positive intervalHigh,
        Option.map_some]
  | minutes interval positive intervalHigh =>
      have safe : interval ≤ 2 ^ 53 - 1 := Nat.le_trans intervalHigh (by decide)
      have written : timeFields (.every interval .minutes none 0) =
          (stepText ['*'] interval, stepText ['*'] 1) := rfl
      simp [readTime, written, minuteRewrite_star positive intervalHigh,
        hourRewrite_star (Nat.le_refl 1) (by decide), parseTimeFields, plainValue_star positive safe,
        parseMinuteInterval_star positive intervalHigh, parseHourPattern_star (Nat.le_refl 1) (by decide)]
  | minutesWithin interval lo hi positive intervalHigh window =>
      have safe : interval ≤ 2 ^ 53 - 1 := Nat.le_trans intervalHigh (by decide)
      by_cases oneHour : lo = hi
      · subst oneHour
        have written : timeFields (.every interval .minutes (some ⟨clock lo 0, clock lo 59⟩) 0) =
            (stepText ['*'] interval, decimal lo) := by
          simp only [timeFields, timeParts_clock, if_true, stepText, List.singleton_append]
        simp [readTime, written, minuteRewrite_star positive intervalHigh,
          hourRewrite_decimal window.high, parseTimeFields, plainValue_star positive safe,
          parseMinuteInterval_star positive intervalHigh, parseHourPattern_decimal window]
        exact ⟨rfl, rfl⟩
      · have ordered := window.ordered
        have written : timeFields (.every interval .minutes (some ⟨clock lo 0, clock hi 59⟩) 0) =
            (stepText ['*'] interval, stepText (spanText lo hi) 1) := by
          simp only [timeFields, timeParts_clock, oneHour, if_false, stepText, spanText, if_true,
            List.singleton_append]
        have wide : ¬(1 > hi - lo) := by omega
        simp [readTime, written, minuteRewrite_star positive intervalHigh,
          hourRewrite_span window (Nat.le_refl 1) (by decide), parseTimeFields,
          plainValue_star positive safe, parseMinuteInterval_star positive intervalHigh,
          parseHourPattern_span window (Nat.le_refl 1) (by decide), wide]
        exact ⟨rfl, rfl⟩

def runPart (run : Nat × Nat) : RangePart :=
  if run.2 > run.1 then spanPart run.1 run.2 1 else plainPart run.1

theorem normal_runText {run : Nat × Nat} (ordered : run.1 ≤ run.2) (high : run.2 ≤ dowBounds.max) :
    Normal (runText run) := by
  have hiSafe : run.2 ≤ 2 ^ 53 - 1 := Nat.le_trans high (by decide)
  have loSafe := Nat.le_trans ordered hiSafe
  rw [runText]
  split
  · exact @normal_span run.1 run.2 1 loSafe hiSafe (by decide)
  · exact normal_decimal loSafe

theorem parseRangePart_runText {run : Nat × Nat} (ordered : run.1 ≤ run.2) (high : run.2 ≤ dowBounds.max) :
    parseRangePart (runText run) dowBounds = some (runPart run) := by
  rw [runText, runPart]
  split
  · exact parseRangePart_span dow_agree (Nat.zero_le run.1) ordered high (Nat.le_refl 1) (by decide)
  · exact parseRangePart_decimal dow_agree (Nat.zero_le run.1) (Nat.le_trans ordered high)

theorem mem_runPart {run : Nat × Nat} (ordered : run.1 ≤ run.2) (day : Nat) :
    day ∈ loopValues (runPart run).lo (runPart run).hi (runPart run).step ↔
      run.1 ≤ day ∧ day ≤ run.2 := by
  rw [runPart]
  split
  · rw [spanPart, mem_loopValues (Nat.le_refl 1)]
    simp
  · rw [plainPart, mem_loopValues (Nat.le_refl 1)]
    simp only [Nat.one_dvd, and_true]
    omega

theorem mapM_runPart {runs : List (Nat × Nat)}
    (each : ∀ run ∈ runs, run.1 ≤ run.2 ∧ run.2 ≤ dowBounds.max) :
    (runs.map runText).mapM (parseRangePart · dowBounds) = some (runs.map runPart) := by
  induction runs with
  | nil => rfl
  | cons run rest ih =>
      obtain ⟨ordered, high⟩ := each run (by simp)
      exact ListLib.mapM_cons_of_some (parseRangePart_runText ordered high)
        (ih fun other member => each other (by simp [member]))

theorem wildcard_runPart (run : Nat × Nat) : (runPart run).wildcard = false := by
  rw [runPart]
  split <;> rfl

theorem ascending_ext {left right : List Nat} (leftAscending : left.Pairwise (· < ·))
    (rightAscending : right.Pairwise (· < ·)) (same : ∀ day, day ∈ left ↔ day ∈ right) :
    left = right := by
  have leftDistinct : left.Nodup := leftAscending.imp fun less => Nat.ne_of_lt less
  have rightDistinct : right.Nodup := rightAscending.imp fun less => Nat.ne_of_lt less
  have permutes := (List.perm_ext_iff_of_nodup leftDistinct rightDistinct).mpr same
  exact permutes.eq_of_pairwise' leftAscending rightAscending

section Weekly

variable {days : List Nat}

theorem runs_bounded (high : ∀ day ∈ days, day ≤ dowBounds.max) :
    ∀ run ∈ consecutiveRuns days, run.1 ≤ run.2 ∧ run.2 ≤ dowBounds.max := by
  obtain ⟨ordered, covered⟩ := consecutiveRuns_spec days
  intro run member
  have below := ordered run member
  exact ⟨below, high run.2 ((covered run.2).mp ⟨run, member, below, Nat.le_refl _⟩)⟩

theorem runTexts_nonempty (nonempty : days ≠ []) : (consecutiveRuns days).map runText ≠ [] := by
  obtain ⟨day, member⟩ := List.exists_mem_of_ne_nil days nonempty
  obtain ⟨run, listed, -⟩ := ((consecutiveRuns_spec days).2 day).mpr member
  exact List.ne_nil_of_mem (List.mem_map_of_mem listed)

theorem splitOn_dowFieldFromDays (nonempty : days ≠ []) :
    (dowFieldFromDays days).splitOn ',' = (consecutiveRuns days).map runText := by
  refine splitOn_join (runTexts_nonempty nonempty) fun text member => ?_
  obtain ⟨run, -, rfl⟩ := List.mem_map.mp member
  exact comma_notMem_runText run

theorem normalizeField_dowFieldFromDays (nonempty : days ≠ []) (high : ∀ day ∈ days, day ≤ dowBounds.max) :
    normalizeField (dowFieldFromDays days) = dowFieldFromDays days := by
  refine normalizeField_join (runTexts_nonempty nonempty) fun text member => ?_
  obtain ⟨run, listed, rfl⟩ := List.mem_map.mp member
  obtain ⟨ordered, below⟩ := runs_bounded high run listed
  exact normal_runText ordered below

theorem collapseWildcardList_dowFieldFromDays (nonempty : days ≠ [])
    (high : ∀ day ∈ days, day ≤ dowBounds.max) :
    collapseWildcardList (dowFieldFromDays days) dowBounds = dowFieldFromDays days := by
  have unstarred : ((consecutiveRuns days).map runPart).any
      (fun range => range.wildcard && range.step = 1) = false := by
    rw [List.any_eq_false]
    intro range member
    obtain ⟨run, -, rfl⟩ := List.mem_map.mp member
    simp [wildcard_runPart]
  rw [collapseWildcardList, splitOn_dowFieldFromDays nonempty, mapM_runPart (runs_bounded high)]
  dsimp only
  rw [unstarred]
  split <;> rfl

theorem expandDow_dowFieldFromDays (nonempty : days ≠ []) (ascending : days.Pairwise (· < ·))
    (high : ∀ day ∈ days, day ≤ dowBounds.max) : expandDow (dowFieldFromDays days) = some days := by
  obtain ⟨ordered, covered⟩ := consecutiveRuns_spec days
  have members : ∀ day, day ∈ ((consecutiveRuns days).map runPart).flatMap
      (fun range => loopValues range.lo range.hi range.step) ↔ day ∈ days := by
    intro day
    rw [← covered day, List.mem_flatMap]
    constructor
    · rintro ⟨range, listed, selected⟩
      obtain ⟨run, member, rfl⟩ := List.mem_map.mp listed
      exact ⟨run, member, (mem_runPart (ordered run member) day).mp selected⟩
    · rintro ⟨run, member, inside⟩
      exact ⟨runPart run, List.mem_map_of_mem member, (mem_runPart (ordered run member) day).mpr inside⟩
  have found : ((consecutiveRuns days).map runPart).flatMap
      (fun range => loopValues range.lo range.hi range.step) ≠ [] := by
    obtain ⟨day, member⟩ := List.exists_mem_of_ne_nil days nonempty
    exact List.ne_nil_of_mem ((members day).mpr member)
  rw [expandDow, splitOn_dowFieldFromDays nonempty, mapM_runPart (runs_bounded high)]
  dsimp only
  rw [if_neg found, Option.some.injEq]
  exact ascending_ext (sortedSet_ascending _) ascending fun day => mem_sortedSet.trans (members day)

theorem dowFieldFromDays_ne_star (nonempty : days ≠ []) (high : ∀ day ∈ days, day ≤ dowBounds.max) :
    dowFieldFromDays days ≠ ['*'] := by
  intro star
  have pieces := splitOn_dowFieldFromDays nonempty
  rw [star, List.splitOn_eq_singleton (by decide)] at pieces
  obtain ⟨run, listed, same⟩ := List.mem_map.mp (pieces ▸ List.mem_singleton_self ['*'])
  obtain ⟨ordered, below⟩ := runs_bounded high run listed
  have read := parseRangePart_runText ordered below
  rw [same, parseRangePart_star, Option.some.injEq] at read
  have wild := wildcard_runPart run
  rw [← read] at wild
  contradiction

end Weekly

def readDays (fields : Text × Text) : Option DayPattern :=
  parseDays (domRewrite (normalizeField fields.1))
    (collapseWildcardList (normalizeField fields.2) dowBounds)

theorem CanonicalDays.read {days : DayPattern} (canonical : CanonicalDays days) :
    readDays (dayFields days) = some days := by
  cases canonical with
  | every => decide
  | weekly daysOfWeek nonempty ascending high =>
      have written : dayFields (.weekly daysOfWeek) = (['*'], dowFieldFromDays daysOfWeek) := by
        simp [dayFields, List.length_pos_iff.mpr nonempty]
      have star : domRewrite (normalizeField ['*']) = ['*'] := by decide
      rw [readDays, written, star, normalizeField_dowFieldFromDays nonempty high,
        collapseWildcardList_dowFieldFromDays nonempty high, parseDays, if_pos rfl,
        if_neg (dowFieldFromDays_ne_star nonempty high), expandDow_dowFieldFromDays nonempty ascending high]
  | monthly dayOfMonth low high =>
      have safe : dayOfMonth ≤ 2 ^ 53 - 1 := Nat.le_trans high (by decide)
      have kept : domRewrite (normalizeField (decimal dayOfMonth)) = decimal dayOfMonth := by
        rw [domRewrite, rewrite_normal (normal_decimal safe), collapsePart_decimal dom_agree low high]
      have star : collapseWildcardList (normalizeField ['*']) dowBounds = ['*'] := by decide
      have notStar : decimal dayOfMonth ≠ ['*'] := fun same => decimal_ne_wildcard dayOfMonth (Or.inl same)
      rw [readDays, dayFields, kept, star, parseDays, if_neg notStar, if_neg (by simp),
        plainValue_decimal dom_agree low high]

def parseBody (timezone body : Text) : ScheduleConfig :=
  let advanced := { getDefaultScheduleConfig timezone with raw := some body }
  match (splitSpaces (trim body)).map normalizeField with
  | [minute, hour, dom, month, dow] =>
      if collapseWildcardList month monthBounds ≠ ['*'] then advanced
      else
        match parseDays (domRewrite dom) (collapseWildcardList dow dowBounds),
            parseTimeFields (minuteRewrite minute) (hourRewrite hour) with
        | some days, some time => { time, days, timezone, raw := none }
        | _, _ => advanced
  | _ => advanced

theorem parseBody_timezone (timezone body : Text) : (parseBody timezone body).timezone = timezone := by
  simp only [parseBody]
  repeat' split
  all_goals rfl

theorem parseBody_raw (timezone body : Text) :
    (parseBody timezone body).raw = none ∨ (parseBody timezone body).raw = some body := by
  simp only [parseBody]
  repeat' split
  all_goals first | exact Or.inl rfl | exact Or.inr rfl

theorem cronFields_isFieldText {config : ScheduleConfig} (canonical : Canonical config) :
    ∀ field ∈ [(timeFields config.time).1, (timeFields config.time).2, (dayFields config.days).1, ['*'],
      (dayFields config.days).2], IsFieldText field := by
  obtain ⟨_, _, -, -, minuteWritten, hourWritten⟩ := timeFields_spec canonical.time.read
  obtain ⟨_, _, -, -, domWritten, dowWritten, -⟩ := dayFields_spec canonical.days.read
  intro field member
  simp only [List.mem_cons, List.not_mem_nil, or_false] at member
  rcases member with rfl | rfl | rfl | rfl | rfl
  · exact minuteWritten.isField
  · exact hourWritten.isField
  · exact domWritten.isField
  · exact isFieldText_star
  · exact dowWritten.isField

/-- The written fields of a canonical configuration, as the text that `toCron` puts behind a zone. -/
structure Body (body : Text) : Prop where
  nonempty : body ≠ []
  trimmed : trim body = body
  bare : hasTimezonePrefix body = false

theorem cronFields_body {config : ScheduleConfig} (canonical : Canonical config) :
    Body (cronFields config) := by
  have isField := cronFields_isFieldText canonical
  have words : ∀ field ∈ _, IsWord field := fun field member => (isField field member).isWord
  have fields : cronFields config = join ' ' [(timeFields config.time).1, (timeFields config.time).2,
      (dayFields config.days).1, ['*'], (dayFields config.days).2] := by
    simp only [cronFields, canonical.raw]
  rw [fields]
  refine ⟨join_ne_nil (by simp) words, trim_join words, ?_⟩
  rw [join_cons_cons]
  exact (isField _ (by simp)).notPrefix _

theorem parseBody_cronFields {config : ScheduleConfig} (canonical : Canonical config) :
    parseBody config.timezone (cronFields config) = config := by
  have isField := cronFields_isFieldText canonical
  have words : ∀ field ∈ _, IsWord field := fun field member => (isField field member).isWord
  have fields : cronFields config = join ' ' [(timeFields config.time).1, (timeFields config.time).2,
      (dayFields config.days).1, ['*'], (dayFields config.days).2] := by
    simp only [cronFields, canonical.raw]
  have time := canonical.time.read
  have days := canonical.days.read
  have month : collapseWildcardList (normalizeField ['*']) monthBounds = ['*'] := by decide
  obtain ⟨time', days', timezone, raw⟩ := config
  rw [readTime] at time
  rw [readDays] at days
  rw [parseBody, fields, trim_join words, splitSpaces_join (by simp) words]
  simp only [List.map_cons, List.map_nil, month, ne_eq, not_true_eq_false, if_false, time, days,
    ← canonical.raw]

section PickerZone

variable (canonicalPickerZone : Text → Option Text)

structure Zone (timezone : Text) : Prop where
  nonempty : timezone ≠ []
  spaceFree : ' ' ∉ timezone
  fixed : canonicalPickerZone timezone = some timezone

theorem parseCron_unextracted {expr : Text} (timezone : Text)
    (unextracted : extractTimezonePrefix canonicalPickerZone expr = none) :
    parseCron canonicalPickerZone expr timezone = parseBody timezone expr := by
  simp only [parseCron, unextracted]
  rfl

theorem parseCron_extracted {expr : Text} {found : TimezonePrefix} (timezone : Text)
    (extracted : extractTimezonePrefix canonicalPickerZone expr = some found) :
    parseCron canonicalPickerZone expr timezone = parseBody found.timezone found.rest := by
  simp only [parseCron, extracted]
  rfl

theorem extracted_body {expr : Text} {found : TimezonePrefix}
    (extracted : extractTimezonePrefix canonicalPickerZone expr = some found) :
    Body found.rest ∧ ∃ name, canonicalPickerZone name = some found.timezone := by
  rw [extractTimezonePrefix] at extracted
  simp only [Option.ite_none_left_eq_some] at extracted
  obtain ⟨-, -, nonempty, bare, zone⟩ := extracted
  split at zone
  · contradiction
  · rename_i timezone known
    rw [Option.some.injEq] at zone
    subst zone
    exact ⟨⟨nonempty, trim_trim _, by simpa using bare⟩, _, known⟩

variable {canonicalPickerZone}

theorem extract_zoned {timezone body : Text} (zone : Zone canonicalPickerZone timezone)
    (isBody : Body body) :
    extractTimezonePrefix canonicalPickerZone ("TZ=".toList ++ timezone ++ ' ' :: body) =
      some ⟨timezone, body⟩ := by
  have free : ∀ char ∈ "TZ=".toList ++ timezone, char ≠ ' ' := by
    rintro char member rfl
    rcases List.mem_append.mp member with inPrefix | inZone
    · exact absurd inPrefix (by decide)
    · exact zone.spaceFree inZone
  have before : ("TZ=".toList ++ timezone ++ ' ' :: body).takeWhile (· ≠ ' ') = "TZ=".toList ++ timezone := by
    rw [List.takeWhile_append_of_pos (by simpa using free), List.takeWhile_cons_of_neg (by simp),
      List.append_nil]
  have after : ("TZ=".toList ++ timezone ++ ' ' :: body).dropWhile (· ≠ ' ') = ' ' :: body := by
    rw [List.dropWhile_append_of_pos (by simpa using free), List.dropWhile_cons_of_neg (by simp)]
  have name : (("TZ=".toList ++ timezone).dropWhile (· ≠ '=')).tail = timezone := rfl
  have prefixed : hasTimezonePrefix ("TZ=".toList ++ timezone ++ ' ' :: body) = true := rfl
  have rest : trim (' ' :: body) = body := by
    rw [trim_cons_space (by decide), isBody.trimmed]
  simp only [extractTimezonePrefix, prefixed, before, after, name, rest, isBody.nonempty, isBody.bare,
    zone.nonempty]
  simp [zone.fixed]

theorem toCron_zoned {config : ScheduleConfig} (zone : Zone canonicalPickerZone config.timezone)
    (isBody : Body (cronFields config)) :
    toCron config = "TZ=".toList ++ config.timezone ++ ' ' :: cronFields config := by
  simp [toCron, isBody.bare, isBody.nonempty, isBody.trimmed, zone.nonempty, zone.spaceFree]

theorem parseCron_toCron {config : ScheduleConfig} (fallback : Text)
    (zone : Zone canonicalPickerZone config.timezone) (isBody : Body (cronFields config)) :
    parseCron canonicalPickerZone (toCron config) fallback =
      parseBody config.timezone (cronFields config) := by
  rw [toCron_zoned zone isBody]
  exact parseCron_extracted canonicalPickerZone fallback (extract_zoned zone isBody)

theorem parseCron_toCron_canonical {config : ScheduleConfig} (fallback : Text)
    (canonical : Canonical config) (zone : Zone canonicalPickerZone config.timezone) :
    parseCron canonicalPickerZone (toCron config) fallback = config := by
  rw [parseCron_toCron fallback zone (cronFields_body canonical), parseBody_cronFields canonical]

theorem parseCron_toCron_advanced {timezone body : Text} (fallback : Text)
    (zone : Zone canonicalPickerZone timezone) (isBody : Body body)
    (advanced : (parseBody timezone body).raw = some body) :
    parseCron canonicalPickerZone (toCron (parseBody timezone body)) fallback = parseBody timezone body := by
  have fields : cronFields (parseBody timezone body) = body := by
    rw [cronFields, advanced]
  rw [parseCron_toCron fallback (by rwa [parseBody_timezone]) (by rwa [fields]), parseBody_timezone, fields]

theorem parseCron_toCron_unextracted {expr timezone : Text} (zone : Zone canonicalPickerZone timezone)
    (unextracted : extractTimezonePrefix canonicalPickerZone expr = none)
    (advanced : (parseBody timezone expr).raw = some expr) :
    parseCron canonicalPickerZone (toCron (parseBody timezone expr)) timezone = parseBody timezone expr := by
  have fields : cronFields (parseBody timezone expr) = expr := by
    rw [cronFields, advanced]
  by_cases isBody : Body expr
  · exact parseCron_toCron_advanced timezone zone isBody advanced
  · have verbatim : toCron (parseBody timezone expr) = expr := by
      rw [toCron, fields]
      by_cases bare : hasTimezonePrefix expr = true
      · rw [if_pos bare]
      · have untrimmed : expr = [] ∨ expr ≠ trim expr := by
          by_contra neither
          rw [not_or, not_not] at neither
          exact isBody ⟨neither.1, neither.2.symm, by simpa using bare⟩
        rw [if_neg bare, if_pos untrimmed]
    rw [verbatim, parseCron_unextracted canonicalPickerZone timezone unextracted]

def Canonicalises (canonicalPickerZone : Text → Option Text) : Prop :=
  ∀ name timezone, canonicalPickerZone name = some timezone → Zone canonicalPickerZone timezone

/-- Reading and writing undo each other on canonical configurations, and every reading is kept. -/
theorem parse_print_inverse (canonicalPickerZone : Text → Option Text)
    (canonicalises : Canonicalises canonicalPickerZone) :
    (∀ expr timezone, Zone canonicalPickerZone timezone →
      (parseCron canonicalPickerZone expr timezone).raw = none →
      Canonical (parseCron canonicalPickerZone expr timezone)) ∧
    (∀ config fallback, Canonical config → Zone canonicalPickerZone config.timezone →
      parseCron canonicalPickerZone (toCron config) fallback = config) ∧
    (∀ expr timezone, Zone canonicalPickerZone timezone →
      parseCron canonicalPickerZone (toCron (parseCron canonicalPickerZone expr timezone)) timezone =
        parseCron canonicalPickerZone expr timezone) := by
  refine ⟨fun _ _ _ structured => parseCron_canonical canonicalPickerZone structured,
    fun _ fallback canonical zone => parseCron_toCron_canonical fallback canonical zone, ?_⟩
  intro expr timezone zone
  cases extracted : extractTimezonePrefix canonicalPickerZone expr with
  | none =>
      have read := parseCron_unextracted canonicalPickerZone timezone extracted
      rcases parseBody_raw timezone expr with structured | advanced
      · have canonical := @parseCron_canonical canonicalPickerZone expr timezone (by rw [read, structured])
        refine parseCron_toCron_canonical timezone canonical ?_
        rwa [read, parseBody_timezone]
      · rw [read]
        exact parseCron_toCron_unextracted zone extracted advanced
  | some found =>
      have read := parseCron_extracted canonicalPickerZone timezone extracted
      obtain ⟨isBody, name, known⟩ := extracted_body canonicalPickerZone extracted
      have foundZone := canonicalises name found.timezone known
      rcases parseBody_raw found.timezone found.rest with structured | advanced
      · have canonical := @parseCron_canonical canonicalPickerZone expr timezone (by rw [read, structured])
        refine parseCron_toCron_canonical timezone canonical ?_
        rwa [read, parseBody_timezone]
      · rw [read]
        exact parseCron_toCron_advanced timezone foundZone isBody advanced

end PickerZone

def twoZones (name : Text) : Option Text :=
  if name = "UTC".toList ∨ name = "utc".toList then some "UTC".toList
  else if name = "Asia/Shanghai".toList ∨ name = "asia/shanghai".toList then some "Asia/Shanghai".toList
  else none

theorem utc_zone : Zone twoZones "UTC".toList := by constructor <;> decide

theorem twoZones_canonicalises : Canonicalises twoZones := by
  intro name timezone known
  simp only [twoZones] at known
  split at known
  · rw [← Option.some.inj known]
    exact utc_zone
  · split at known
    · rw [← Option.some.inj known]
      constructor <;> decide
    · contradiction

theorem parse_print_inverse_shanghai :
    parseCron twoZones (toCron
        (parseCron twoZones "CRON_TZ=asia/shanghai 0,* 9-17 * * mon,3-5".toList "UTC".toList))
        "UTC".toList =
      parseCron twoZones "CRON_TZ=asia/shanghai 0,* 9-17 * * mon,3-5".toList "UTC".toList :=
  (parse_print_inverse twoZones twoZones_canonicalises).2.2 _ _ utc_zone

end MulticaOS.Cron
