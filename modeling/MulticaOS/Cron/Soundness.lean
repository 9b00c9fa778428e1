import MulticaOS.Cron.Writing

/-!
The editor against the server's parser: for which expressions a structured
configuration writes back the schedule it was read from.
-/

namespace MulticaOS.Cron

open TextLib

/-! An unextracted `TZ=` prefix is never structured. -/

structure Opening (char : Char) : Prop where
  notDigit : char.isDigit = false
  notPlus : char ≠ '+'
  notStar : char ≠ '*'
  notQuestion : char ≠ '?'
  notSlash : char ≠ '/'
  notDash : char ≠ '-'
  notComma : char ≠ ','
  notSpace : isSpace char = false

theorem parseRangePart_opening {char : Char} (opening : Opening char) (text : Text) :
    parseRangePart (char :: text) minuteBounds = none := by
  obtain ⟨range, tails, split⟩ := splitOn_cons_keep opening.notSlash text
  obtain ⟨low, highs, ends⟩ := splitOn_cons_keep opening.notDash range
  have unread : ∀ rest, fieldValue (char :: rest) minuteBounds = none := by
    intro rest
    simp [fieldValue, minuteBounds, isNumeral, opening.notDigit]
  have refused : ∀ step stepped, parseRange (char :: range) step stepped minuteBounds = none := by
    intro step stepped
    rw [parseRange, if_neg (by simp [opening.notStar]), ends]
    rcases highs with _ | ⟨high, _ | ⟨next, rest⟩⟩
    · simp [unread]
    · simp [unread]
    · rfl
  rw [parseRangePart, split]
  dsimp only
  split
  · rfl
  · split
    · rfl
    · exact refused _ _

theorem normalizeRange_opening {char : Char} (opening : Opening char) (text : Text) :
    normalizeRange (char :: text) = char :: text := by
  have range : (char :: text).takeWhile (· ≠ '/') = char :: text.takeWhile (· ≠ '/') :=
    List.takeWhile_cons_of_pos (by simpa using opening.notSlash)
  obtain ⟨low, highs, ends⟩ := splitOn_cons_keep opening.notDash (text.takeWhile (· ≠ '/'))
  have notWild : isWildcardEnd (char :: low) = false := by
    simp [isWildcardEnd, opening.notStar, opening.notQuestion]
  rw [normalizeRange, range, ends]
  simp [notWild]

theorem fieldRanges_opening {char : Char} (opening : Opening char) (text : Text) :
    fieldRanges (normalizeField (char :: text)) minuteBounds = none := by
  obtain ⟨first, rest, split⟩ := splitOn_cons_keep opening.notComma text
  cases found : fieldRanges (normalizeField (char :: text)) minuteBounds with
  | none => rfl
  | some ranges =>
      have elements : listElements (char :: text) = (char :: first) :: rest.filter (· ≠ []) := by
        rw [listElements, split]
        simp
      have pieces : (normalizeField (char :: text)).splitOn ',' =
          (listElements (char :: text)).map fun part => replaceNumerals [] (normalizeRange part) :=
        splitOn_normalizeField (by simp [elements])
      rw [fieldRanges, pieces, elements, List.map_cons] at found
      obtain ⟨range, others, read, -, -⟩ := ListLib.mapM_cons_some found
      have kept : replaceNumerals [] (char :: first) = char :: replaceNumerals [] first := by
        simp [replaceNumerals, opening.notDigit, opening.notPlus, canonicalNumeral_nil]
      rw [normalizeRange_opening opening, kept, parseRangePart_opening opening] at read
      contradiction

theorem opening_of_prefix {expr : Text} (prefixed : hasTimezonePrefix expr = true) :
    ∃ char rest, expr = char :: rest ∧ Opening char := by
  cases expr with
  | nil => exact absurd prefixed (by decide)
  | cons char rest =>
      refine ⟨char, rest, rfl, ?_⟩
      have letter : char = 'T' ∨ char = 'C' := by
        simp only [hasTimezonePrefix, Bool.or_eq_true] at prefixed
        rcases prefixed with short | long
        · have spelled : "TZ=".toList = ['T', 'Z', '='] := by decide
          rw [spelled, List.isPrefixOf_cons_cons, Bool.and_eq_true, beq_iff_eq] at short
          exact Or.inl short.1.symm
        · have spelled : "CRON_TZ=".toList = ['C', 'R', 'O', 'N', '_', 'T', 'Z', '='] := by decide
          rw [spelled, List.isPrefixOf_cons_cons, Bool.and_eq_true, beq_iff_eq] at long
          exact Or.inr long.1.symm
      rcases letter with rfl | rfl
      · constructor <;> decide
      · constructor <;> decide

theorem firstField_opening {char : Char} (opening : Opening char) (rest : Text) :
    ∃ word words, splitSpaces (trim (char :: rest)) = (char :: word) :: words := by
  obtain ⟨trimmed, shape⟩ := trim_cons_keep opening.notSpace rest
  obtain ⟨word, words, split⟩ := splitOnP_cons_keep opening.notSpace trimmed
  refine ⟨word, words.filter (· ≠ []), ?_⟩
  rw [shape, splitSpaces, if_neg (by simp), split]
  simp

def minuteRewrite (field : Text) : Text :=
  collapseDegenerateRange (collapseWildcardList field minuteBounds) minuteBounds false
def hourRewrite (field : Text) : Text :=
  collapseDegenerateRange (collapseWildcardList field hourBounds) hourBounds true
def domRewrite (field : Text) : Text :=
  collapseDegenerateRange (collapseWildcardList field domBounds) domBounds false

theorem minuteRewrite_keeps : KeepsRanges minuteBounds minuteRewrite :=
  (collapseDegenerateRange_keeps minute_agree false).comp (collapseWildcardList_keeps minute_agree)
theorem hourRewrite_keeps : KeepsRanges hourBounds hourRewrite :=
  (collapseDegenerateRange_keeps hour_agree true).comp (collapseWildcardList_keeps hour_agree)
theorem domRewrite_keeps : KeepsRanges domBounds domRewrite :=
  (collapseDegenerateRange_keeps dom_agree false).comp (collapseWildcardList_keeps dom_agree)

structure Structured (expr : Text) (config : ScheduleConfig) (minute hour dom month dow : Text) :
    Prop where
  fields : Reference.referenceFields expr = [minute, hour, dom, month, dow]
  raw : config.raw = none
  time : parseTimeFields (minuteRewrite (normalizeField minute)) (hourRewrite (normalizeField hour)) =
    some config.time
  days : parseDays (domRewrite (normalizeField dom))
    (collapseWildcardList (normalizeField dow) dowBounds) = some config.days
  everyMonth : collapseWildcardList (normalizeField month) monthBounds = ['*']

section PickerZone

variable (canonicalPickerZone : Text → Option Text)

theorem five_of_map {words : List Text} {rewrite : Text → Text} {a b c d e : Text}
    (mapped : words.map rewrite = [a, b, c, d, e]) :
    ∃ first second third fourth fifth, words = [first, second, third, fourth, fifth] ∧
      rewrite first = a ∧ rewrite second = b ∧ rewrite third = c ∧ rewrite fourth = d ∧
      rewrite fifth = e := by
  match words, mapped with
  | [first, second, third, fourth, fifth], mapped =>
      simp only [List.map_cons, List.map_nil, List.cons.injEq, and_true] at mapped
      exact ⟨first, second, third, fourth, fifth, rfl, mapped⟩

def parsedBody (expr : Text) : Text :=
  match extractTimezonePrefix canonicalPickerZone expr with
  | none => expr
  | some found => found.rest

theorem parseCron_fields {expr timezone : Text}
    (structured : (parseCron canonicalPickerZone expr timezone).raw = none) :
    ∃ minute hour dom month dow,
      splitSpaces (trim (parsedBody canonicalPickerZone expr)) = [minute, hour, dom, month, dow] ∧
      parseTimeFields (minuteRewrite (normalizeField minute)) (hourRewrite (normalizeField hour)) =
        some (parseCron canonicalPickerZone expr timezone).time ∧
      parseDays (domRewrite (normalizeField dom))
        (collapseWildcardList (normalizeField dow) dowBounds) =
        some (parseCron canonicalPickerZone expr timezone).days ∧
      collapseWildcardList (normalizeField month) monthBounds = ['*'] := by
  simp only [parseCron] at structured ⊢
  split at structured
  · rename_i rawMinute rawHour rawDom rawMonth rawDow mapped
    obtain ⟨minute, hour, dom, month, dow, words, rfl, rfl, rfl, rfl, rfl⟩ := five_of_map mapped
    refine ⟨minute, hour, dom, month, dow, words, ?_⟩
    split at structured
    · simp at structured
    · rename_i everyMonth
      split at structured
      · rename_i days time readDays readTime
        rw [ne_eq, not_not] at everyMonth
        rw [if_neg (not_not.mpr everyMonth)]
        exact ⟨readTime, readDays, everyMonth⟩
      · simp at structured
  · simp at structured

theorem fields_of_splitSpaces {text : Text} {first second : Text} {rest : List Text}
    (split : splitSpaces text = first :: second :: rest) :
    (splitSpaces text).filter (· ≠ []) = first :: second :: rest := by
  rw [← split]
  rw [splitSpaces] at split ⊢
  split at split
  · simp at split
  · rename_i nonempty
    rw [if_neg nonempty, List.filter_filter]
    simp

theorem referenceFields_of_parsedBody {expr first second : Text} {rest : List Text}
    (split : splitSpaces (trim (parsedBody canonicalPickerZone expr)) = first :: second :: rest)
    (unopened : ∀ char word, Opening char → first ≠ char :: word) :
    Reference.referenceFields expr = first :: second :: rest := by
  rw [Reference.referenceFields, Reference.referenceBody]
  by_cases prefixed : hasTimezonePrefix expr = true
  · cases extracted : extractTimezonePrefix canonicalPickerZone expr with
    | none =>
        obtain ⟨char, tail, rfl, opening⟩ := opening_of_prefix prefixed
        obtain ⟨word, words, shape⟩ := firstField_opening opening tail
        simp only [parsedBody, extracted] at split
        rw [shape, List.cons.injEq] at split
        exact absurd split.1.symm (unopened char word opening)
    | some found =>
        simp only [parsedBody, extracted] at split
        simp only [extractTimezonePrefix, prefixed, Bool.not_true, Bool.false_eq_true, if_false,
          Option.ite_none_left_eq_some] at extracted
        obtain ⟨spaced, -, -, zone⟩ := extracted
        split at zone
        · contradiction
        · rw [Option.some.injEq] at zone
          subst zone
          simp only [prefixed, Bool.not_true, Bool.false_eq_true, if_false, if_neg spaced]
          exact fields_of_splitSpaces split
  · have unextracted : extractTimezonePrefix canonicalPickerZone expr = none := by
      simp [extractTimezonePrefix, prefixed]
    simp only [parsedBody, unextracted] at split
    simp only [prefixed, Bool.not_false, if_true]
    exact fields_of_splitSpaces split

theorem structured_of_parseCron {expr timezone : Text}
    (structured : (parseCron canonicalPickerZone expr timezone).raw = none) :
    ∃ minute hour dom month dow,
      Structured expr (parseCron canonicalPickerZone expr timezone) minute hour dom month dow := by
  obtain ⟨minute, hour, dom, month, dow, words, time, days, everyMonth⟩ :=
    parseCron_fields canonicalPickerZone structured
  refine ⟨minute, hour, dom, month, dow, ?_, structured, time, days, everyMonth⟩
  refine referenceFields_of_parsedBody canonicalPickerZone words ?_
  rintro char word opening rfl
  obtain ⟨minuteRange, hourRange, readMinute, -⟩ := timeFields_spec time
  obtain ⟨originals, read, -⟩ := minuteRewrite_keeps _ _ readMinute
  rw [fieldRanges_opening opening] at read
  cases read

end PickerZone

theorem referenceFields_toCron {config : ScheduleConfig} {minute hour dom dow : Text}
    (raw : config.raw = none) (time : timeFields config.time = (minute, hour))
    (days : dayFields config.days = (dom, dow))
    (each : ∀ field ∈ [minute, hour, dom, ['*'], dow], IsFieldText field) :
    Reference.referenceFields (toCron config) = [minute, hour, dom, ['*'], dow] := by
  have words : ∀ field ∈ [minute, hour, dom, ['*'], dow], IsWord field :=
    fun field member => (each field member).isWord
  have fields : cronFields config = join ' ' [minute, hour, dom, ['*'], dow] := by
    simp only [cronFields, raw, days, time]
  have trimmed := trim_join words
  have split : splitSpaces (join ' ' [minute, hour, dom, ['*'], dow]) =
      [minute, hour, dom, ['*'], dow] := splitSpaces_join (by simp) words
  have kept := fields_of_splitSpaces split
  have nonempty := join_ne_nil (by simp) words
  have bare : hasTimezonePrefix (join ' ' [minute, hour, dom, ['*'], dow]) = false := by
    rw [join_cons_cons]
    exact (each minute (by simp)).notPrefix _
  rw [toCron, fields]
  simp only [bare, Bool.false_eq_true, if_false, trimmed, nonempty, ne_eq, not_true_eq_false,
    or_self]
  split
  · simp only [Reference.referenceFields, Reference.referenceBody, bare, Bool.not_false, if_true,
      trimmed, kept]
  · rename_i zoned
    rw [not_or] at zoned
    have zoneFree : ' ' ∉ "TZ=".toList ++ config.timezone := by
      rw [List.mem_append, not_or]
      exact ⟨by decide, zoned.2⟩
    have dropped : ("TZ=".toList ++ config.timezone ++
        ' ' :: join ' ' [minute, hour, dom, ['*'], dow]).dropWhile (· ≠ ' ') =
          ' ' :: join ' ' [minute, hour, dom, ['*'], dow] := by
      rw [List.dropWhile_append_of_pos]
      · exact List.dropWhile_cons_of_neg (by simp)
      · intro char member
        have other : char ≠ ' ' := fun same => zoneFree (same ▸ member)
        simpa using other
    have prefixed : hasTimezonePrefix ("TZ=".toList ++ config.timezone ++
        ' ' :: join ' ' [minute, hour, dom, ['*'], dow]) = true := by
      rw [hasTimezonePrefix, Bool.or_eq_true]
      exact Or.inl (List.isPrefixOf_iff_prefix.mpr ⟨_, (List.append_assoc _ _ _).symm⟩)
    have body : Reference.referenceBody ("TZ=".toList ++ config.timezone ++
        ' ' :: join ' ' [minute, hour, dom, ['*'], dow]) =
          some (join ' ' [minute, hour, dom, ['*'], dow]) := by
      rw [Reference.referenceBody, prefixed, Bool.not_true, if_neg Bool.false_ne_true, if_neg (by simp),
        dropped, trim_cons_space (by decide), trimmed]
    rw [Reference.referenceFields, body]
    dsimp only
    rw [trimmed, kept]

theorem reference_eq_some {expr minute hour dom month dow : Text} {spec : Reference.Spec}
    (fields : Reference.referenceFields expr = [minute, hour, dom, month, dow]) :
    Reference.reference expr = some spec ↔
      Reference.parseField minute Reference.minuteBounds = some spec.minute ∧
      Reference.parseField hour Reference.hourBounds = some spec.hour ∧
      Reference.parseField dom Reference.domBounds = some spec.dom ∧
      Reference.parseField month Reference.monthBounds = some spec.month ∧
      Reference.parseField dow Reference.dowBounds = some spec.dow := by
  rw [Reference.reference, fields]
  simp only [Option.bind_eq_bind, Option.bind_eq_some_iff, Option.pure_def, Option.some.injEq]
  constructor
  · rintro ⟨readMinute, minuteSome, readHour, hourSome, readDom, domSome, readMonth, monthSome,
      readDow, dowSome, rfl⟩
    exact ⟨minuteSome, hourSome, domSome, monthSome, dowSome⟩
  · rintro ⟨minuteSome, hourSome, domSome, monthSome, dowSome⟩
    exact ⟨_, minuteSome, _, hourSome, _, domSome, _, monthSome, _, dowSome, rfl⟩

/-- The ranges behind a structured configuration, as the server reads them in the original
expression and in the one written back. -/
structure Compared (expr : Text) (config : ScheduleConfig) (minute hour dom month dow : Text)
    (minuteRange hourRange domRanges dowRanges : List RangePart) : Prop where
  minuteRead : ReadAs minute Reference.minuteBounds minuteRange
  hourRead : ReadAs hour Reference.hourBounds hourRange
  domRead : ReadAs dom Reference.domBounds domRanges
  monthRead : ReadAs month Reference.monthBounds [wildcardPart monthBounds]
  dowRead : ReadAs dow Reference.dowBounds dowRanges
  minuteWritten : Writes (timeFields config.time).1 Reference.minuteBounds minuteRange
  hourWritten : Writes (timeFields config.time).2 Reference.hourBounds hourRange
  domWritten : Writes (dayFields config.days).1 Reference.domBounds domRanges
  dowWritten : Writes (dayFields config.days).2 Reference.dowBounds dowRanges
  star : (domRanges = [wildcardPart domBounds] ∧ (dayFields config.days).1 = ['*']) ∨
    (dowRanges = [wildcardPart dowBounds] ∧ (dayFields config.days).2 = ['*'])

theorem Structured.compared {expr minute hour dom month dow : Text} {config : ScheduleConfig}
    (structured : Structured expr config minute hour dom month dow) :
    ∃ minuteRange hourRange domRanges dowRanges,
      Compared expr config minute hour dom month dow minuteRange hourRange domRanges dowRanges := by
  obtain ⟨minuteRange, hourRange, readMinute, readHour, minuteWritten, hourWritten⟩ :=
    timeFields_spec structured.time
  obtain ⟨domRanges, dowRanges, readDom, readDow, domWritten, dowWritten, star⟩ :=
    dayFields_spec structured.days
  have readMonth : fieldRanges (collapseWildcardList (normalizeField month) monthBounds)
      monthBounds = some [wildcardPart monthBounds] := by
    rw [structured.everyMonth]
    exact fieldRanges_single month_agree (parseRangePart_star monthBounds)
  exact ⟨_, _, _, _, {
    minuteRead := readAs_of_keeps minute_agree minuteRewrite_keeps readMinute
    hourRead := readAs_of_keeps hour_agree hourRewrite_keeps readHour
    domRead := readAs_of_keeps dom_agree domRewrite_keeps readDom
    monthRead := readAs_of_keeps month_agree (collapseWildcardList_keeps month_agree) readMonth
    dowRead := readAs_of_keeps dow_agree (collapseWildcardList_keeps dow_agree) readDow
    minuteWritten, hourWritten, domWritten, dowWritten, star }⟩

theorem Compared.clean_of_accepted {expr minute hour dom month dow : Text} {config : ScheduleConfig}
    {minuteRange hourRange domRanges dowRanges : List RangePart} {spec : Reference.Spec}
    (compared : Compared expr config minute hour dom month dow minuteRange hourRange domRanges
      dowRanges)
    (fields : Reference.referenceFields expr = [minute, hour, dom, month, dow])
    (accepted : Reference.reference expr = some spec) :
    (Reference.referenceFields expr).all cleanField = true := by
  obtain ⟨minuteSome, hourSome, domSome, monthSome, dowSome⟩ :=
    (reference_eq_some fields).mp accepted
  have clean : ∀ {field : Text} {server : Reference.Bounds} {ranges : List RangePart}
      {read : Reference.Field}, ReadAs field server ranges →
      Reference.parseField field server = some read → cleanField field = true := by
    intro field server ranges read readAs found
    by_contra unclean
    rw [readAs.unclean (by simpa using unclean)] at found
    contradiction
  simp [fields, clean compared.minuteRead minuteSome, clean compared.hourRead hourSome,
    clean compared.domRead domSome, clean compared.monthRead monthSome,
    clean compared.dowRead dowSome]

theorem star_wildcardPart (bounds : FieldBounds) :
    (rangesField [wildcardPart bounds]).star = true := by
  simp [rangesField, RangePart.field, wildcardPart]

theorem star_parseField {editor : FieldBounds} {server : Reference.Bounds}
    (agree : Agree editor server) {field : Reference.Field}
    (read : Reference.parseField ['*'] server = some field) : field.star = true := by
  have span := agree.span
  have range := getRange_stepText agree (by decide) (by decide) (Nat.le_refl 1)
    (getEnds_star agree _) ⟨Nat.le_refl _, Nat.le_of_lt span, Nat.le_refl _⟩
  have whole : stepText ['*'] 1 = ['*'] := rfl
  rw [whole] at range
  rw [parseField_single (by decide) (by decide) range, Option.some.injEq] at read
  rw [← read]
  rfl

theorem Compared.sameSchedule {expr minute hour dom month dow : Text} {config : ScheduleConfig}
    {minuteRange hourRange domRanges dowRanges : List RangePart}
    (compared : Compared expr config minute hour dom month dow minuteRange hourRange domRanges
      dowRanges)
    (fields : Reference.referenceFields expr = [minute, hour, dom, month, dow])
    (raw : config.raw = none)
    (clean : (Reference.referenceFields expr).all cleanField = true) :
    ∃ before after, Reference.reference expr = some before ∧
      Reference.reference (toCron config) = some after ∧ Reference.SameSchedule before after := by
  simp only [fields, List.all_cons, List.all_nil, Bool.and_true, Bool.and_eq_true] at clean
  obtain ⟨cleanMinute, cleanHour, cleanDom, cleanMonth, cleanDow⟩ := clean
  obtain ⟨minuteBefore, minuteSome, minuteSame⟩ := compared.minuteRead.clean cleanMinute
  obtain ⟨hourBefore, hourSome, hourSame⟩ := compared.hourRead.clean cleanHour
  obtain ⟨domBefore, domSome, domSame⟩ := compared.domRead.clean cleanDom
  obtain ⟨monthBefore, monthSome, monthSame⟩ := compared.monthRead.clean cleanMonth
  obtain ⟨dowBefore, dowSome, dowSame⟩ := compared.dowRead.clean cleanDow
  have monthWritten := writes_wildcardPart month_agree
  obtain ⟨minuteAfter, minuteBack, minuteValues⟩ := compared.minuteWritten.reads
  obtain ⟨hourAfter, hourBack, hourValues⟩ := compared.hourWritten.reads
  obtain ⟨domAfter, domBack, domValues⟩ := compared.domWritten.reads
  obtain ⟨monthAfter, monthBack, monthValues⟩ := monthWritten.reads
  obtain ⟨dowAfter, dowBack, dowValues⟩ := compared.dowWritten.reads
  have written := referenceFields_toCron raw rfl rfl (by
    intro field member
    simp only [List.mem_cons, List.not_mem_nil, or_false] at member
    rcases member with rfl | rfl | rfl | rfl | rfl
    · exact compared.minuteWritten.isField
    · exact compared.hourWritten.isField
    · exact compared.domWritten.isField
    · exact isFieldText_star
    · exact compared.dowWritten.isField)
  refine ⟨⟨minuteBefore, hourBefore, domBefore, monthBefore, dowBefore⟩,
    ⟨minuteAfter, hourAfter, domAfter, monthAfter, dowAfter⟩,
    (reference_eq_some fields).mpr ⟨minuteSome, hourSome, domSome, monthSome, dowSome⟩,
    (reference_eq_some written).mpr ⟨minuteBack, hourBack, domBack, monthBack, dowBack⟩, ?_⟩
  have domEqual : ∀ value, value ∈ domBefore.values ↔ value ∈ domAfter.values :=
    fun value => (domSame.values value).trans (domValues value).symm
  have dowEqual : ∀ value, value ∈ dowBefore.values ↔ value ∈ dowAfter.values :=
    fun value => (dowSame.values value).trans (dowValues value).symm
  have bothStarred : (domBefore.star || dowBefore.star) = true ∧
      (domAfter.star || dowAfter.star) = true := by
    rcases compared.star with ⟨wild, text⟩ | ⟨wild, text⟩
    · rw [wild] at domSame
      rw [text] at domBack
      rw [domSame.star, star_wildcardPart, star_parseField dom_agree domBack]
      exact ⟨rfl, rfl⟩
    · rw [wild] at dowSame
      rw [text] at dowBack
      rw [dowSame.star, star_wildcardPart, star_parseField dow_agree dowBack]
      simp
  constructor
  · exact fun value => (minuteSame.values value).trans (minuteValues value).symm
  · exact fun value => (hourSame.values value).trans (hourValues value).symm
  · exact fun value => (monthSame.values value).trans (monthValues value).symm
  · intro domValue dowValue
    simp only [Reference.dayMatches, bothStarred.1, bothStarred.2, if_true, domEqual, dowEqual]

/-- The editor is sound exactly on the expressions whose list elements are clean: no digit
directly followed by `+`, and no name spelled with `ſ` or `ı`. -/
theorem parseCron_sound_iff_clean (canonicalPickerZone : Text → Option Text) (expr timezone : Text)
    (structured : (parseCron canonicalPickerZone expr timezone).raw = none) :
    (∃ before after, Reference.reference expr = some before ∧
      Reference.reference (toCron (parseCron canonicalPickerZone expr timezone)) = some after ∧
      Reference.SameSchedule before after) ↔
    (Reference.referenceFields expr).all cleanField = true := by
  obtain ⟨minute, hour, dom, month, dow, origin⟩ :=
    structured_of_parseCron canonicalPickerZone structured
  obtain ⟨minuteRange, hourRange, domRanges, dowRanges, compared⟩ := origin.compared
  constructor
  · rintro ⟨before, after, accepted, -, -⟩
    exact compared.clean_of_accepted origin.fields accepted
  · intro clean
    exact compared.sameSchedule origin.fields structured clean

theorem parseCron_sound_weekdays :
    ∃ before after, Reference.reference "TZ=UTC +05 9-17/2 * * mon,3-5".toList = some before ∧
      Reference.reference
        (toCron (parseCron some "TZ=UTC +05 9-17/2 * * mon,3-5".toList "UTC".toList)) = some after ∧
      Reference.SameSchedule before after :=
  (parseCron_sound_iff_clean some "TZ=UTC +05 9-17/2 * * mon,3-5".toList "UTC".toList
    (by decide)).mpr (by decide)

/-- `1+2` is rewritten to the minute 12; the server rejects it. -/
theorem parseCron_unsound_glued :
    (parseCron some "1+2 9 * * *".toList "UTC".toList).raw = none ∧
    ¬ ∃ before after, Reference.reference "1+2 9 * * *".toList = some before ∧
      Reference.reference (toCron (parseCron some "1+2 9 * * *".toList "UTC".toList)) = some after ∧
      Reference.SameSchedule before after := by
  refine ⟨by decide, ?_⟩
  rintro ⟨before, after, accepted, -, -⟩
  have rejected : (Reference.reference "1+2 9 * * *".toList).isNone = true := by decide
  rw [accepted] at rejected
  contradiction

end MulticaOS.Cron
