import MulticaOS.Cron.Elements

/-!
Which expressions of the server the editor takes up, and for which spellings it refuses one
without a reason of the list `EXCLUSIONS`.
-/

namespace MulticaOS.Cron

open TextLib

def repeatsValue (field : Text) (parsed : Reference.Field) : Bool :=
  parsed.values.dedup.length = 1 && 1 < (listElements field).length

def steppedWildcard (field : Text) (parsed : Reference.Field) : Bool :=
  parsed.star && (listElements field).length = 1 && '/' ∈ field

theorem comma_mem_join {first second : Text} {rest : List Text} :
    ',' ∈ join ',' (first :: second :: rest) := by
  rw [join_cons_cons]
  simp

theorem comma_mem_meaningful {field : Text} {parsed : Reference.Field}
    (many : 1 < (listElements field).length) (star : parsed.star = false)
    (unrepeated : repeatsValue field parsed = false) :
    ',' ∈ Reference.meaningfulField field parsed := by
  rw [Reference.meaningfulField_text star]
  · match shape : listElements field with
    | [] => simp [shape] at many
    | [_] => simp [shape] at many
    | _ :: _ :: _ => exact comma_mem_join
  · intro value single
    simp [repeatsValue, single, many] at unrepeated

theorem meaningful_single {editor : FieldBounds} {field part : Text} {range : RangePart}
    (listed : listElements field = [part]) (valid : range.Valid editor)
    (star : range.field.star = false) (narrow : range.step ≤ range.hi - range.lo) :
    Reference.meaningfulField field range.field = replaceNumerals [] part := by
  rw [Reference.meaningfulField_text star (field_many valid narrow), listed, List.map_singleton,
    join_singleton]

theorem marked_meaningful {editor : FieldBounds} {field part ends : Text} {stepStrs : List Text}
    {range : RangePart} (listed : listElements field = [part])
    (element : Element editor part ends stepStrs range) (valid : range.Valid editor)
    (star : range.field.star = false) (narrow : range.step ≤ range.hi - range.lo) :
    '/' ∈ Reference.meaningfulField field range.field ∨ '-' ∈ Reference.meaningfulField field range.field := by
  rw [meaningful_single listed valid star narrow]
  exact (element.marked valid star narrow).imp (mem_replaceNumerals_separator slash_separates)
    (mem_replaceNumerals_separator dash_separates)

theorem unmarked_of_isShort {text : Text} (short : Reference.isShort text = true) :
    ¬('/' ∈ text ∨ '-' ∈ text) := by
  rintro (slash | dash)
  · exact Reference.notMem_of_isShort short (by decide) slash
  · exact Reference.notMem_of_isShort short (by decide) dash

theorem Element.fromZero {part ends : Text} {stepStrs : List Text} {range : RangePart}
    (element : Element minuteBounds part ends stepStrs range) (valid : range.Valid minuteBounds)
    (steps : Reference.stepsFromZero (Reference.wildMark (replaceNumerals [] part)) = true) :
    range.stepped = true ∧ range.lo = minuteBounds.min ∧ range.explicitRange = false := by
  obtain ⟨mark, step, shape, short, marks⟩ := Reference.stepsFromZero_of_wildMark steps
  have pieces := splitOn_replaceNumerals slash_separates part
  have stepFree : '/' ∉ step := Reference.notMem_of_isShort short (by decide)
  have markFree : '/' ∉ [mark] := by
    rcases marks with rfl | rfl | rfl
    all_goals decide
  have split : (mark :: '/' :: step).splitOn '/' = [[mark], step] := by
    rw [show mark :: '/' :: step = [mark] ++ '/' :: step from rfl,
      List.splitOn_append_cons_self_of_not_mem markFree, List.splitOn_eq_singleton stepFree]
  rw [shape, split, element.pieces, List.map_cons, List.cons.injEq] at pieces
  obtain ⟨endsShape, stepShape⟩ := pieces
  have stepped : range.stepped = true := by
    rw [element.stepped]
    cases stepStrs with
    | nil => simp at stepShape
    | cons first rest => rfl
  refine ⟨stepped, ?_⟩
  have dashFree : '-' ∉ ends := by
    intro dash
    have kept := mem_replaceNumerals_separator dash_separates dash
    rw [← endsShape, List.mem_singleton] at kept
    rcases marks with rfl | rfl | rfl
    all_goals exact absurd kept (by decide)
  have explicitRange : range.explicitRange = false := by
    rw [element.explicitRange]
    simp [dashFree]
  refine ⟨?_, explicitRange⟩
  cases wild : range.wildcard with
  | true => exact (valid.whole wild).1
  | false =>
      have notWild : isWildcardEnd ends = false := by
        have wildcard := element.wildcard
        rw [wild, List.splitOn_eq_singleton dashFree] at wildcard
        exact wildcard.symm
      have normalized : normalizedEnds ends = ends := by
        simp [normalizedEnds, List.splitOn_eq_singleton dashFree, notWild]
      have zero : mark = '0' := by
        rcases marks with rfl | rfl | rfl
        · rw [eq_of_replaceNumerals_mark (by decide) endsShape.symm] at notWild
          contradiction
        · rw [eq_of_replaceNumerals_mark (by decide) endsShape.symm] at notWild
          contradiction
        · rfl
      have zeroRead : fieldValue ['0'] minuteBounds = some 0 := by decide
      have whole : ['0'].splitOn '-' = [['0']] := List.splitOn_eq_singleton (by decide)
      have read := element.read
      rw [normalized, ← endsShape, zero, parseRange, if_neg (by decide), whole] at read
      simp only [zeroRead, Option.ite_none_left_eq_some, Option.some.injEq] at read
      rw [← read.2]
      rfl

theorem minute_taken {field : Text} {parsed : Reference.Field}
    (shape : FieldShape minuteBounds field parsed) (unrepeated : repeatsValue field parsed = false)
    (plain : Reference.wildMark (Reference.meaningfulField field parsed) = ['*'] ∨
      Reference.isShort (Reference.wildMark (Reference.meaningfulField field parsed)) = true ∨
      Reference.stepsFromZero (Reference.wildMark (Reference.meaningfulField field parsed)) = true) :
    (∃ value, plainValue (minuteRewrite (normalizeField field)) minuteBounds = some value) ∨
      ((∃ interval, parseMinuteInterval (minuteRewrite (normalizeField field)) = some interval) ∧
        (Reference.wildMark (Reference.meaningfulField field parsed) = ['*'] ∨
          Reference.stepsFromZero (Reference.wildMark (Reference.meaningfulField field parsed)) = true)) := by
  cases shape with
  | everything many star rewritten =>
      refine Or.inr ⟨⟨1, ?_⟩, Or.inl ?_⟩
      · rw [minuteRewrite, rewritten]
        decide
      · rw [Reference.meaningfulField_star star]
        rfl
  | list many star rewritten =>
      have comma := Reference.comma_mem_wildMark (comma_mem_meaningful many star unrepeated)
      rcases plain with text | short | steps
      · exact absurd (text ▸ comma) (by decide)
      · exact absurd comma (Reference.notMem_of_isShort short (by decide))
      · obtain ⟨mark, step, text, short, marks⟩ := Reference.stepsFromZero_cases steps
        have stepFree : ',' ∉ step := Reference.notMem_of_isShort short (by decide)
        rw [text] at comma
        rcases marks with rfl | rfl
        all_goals simp [stepFree] at comma
  | single part ends stepStrs range listed element safe same =>
      subst same
      have parse := element.parse
      rw [if_pos safe] at parse
      have valid := parseRangePart_valid minute_agree parse
      have rewritten := rewrite_single minute_agree listed parse false
      rw [minuteRewrite, rewritten]
      by_cases wide : range.hi - range.lo < range.step
      · refine Or.inl ⟨range.lo, ?_⟩
        rw [collapsePart_wide parse wide]
        exact plainValue_decimal minute_agree valid.low (Nat.le_trans valid.ordered valid.high)
      · have narrow := Nat.not_lt.mp wide
        rw [collapsePart_narrow parse narrow]
        have small : range.step ≤ 59 := by
          have high : range.hi ≤ 59 := valid.high
          omega
        have interval : range.lo = minuteBounds.min → range.explicitRange = false →
            (range.stepped = true ∨ range.wildcard = true) →
            parseMinuteInterval (replaceNumerals [] (normalizeRange part)) = some range.step := by
          intro low bare opened
          simp only [parseMinuteInterval, parse]
          have inside : ¬minuteBounds.max < range.step := Nat.not_lt.mpr small
          rcases opened with stepped | wild
          · simp [low, bare, stepped, inside]
          · simp [low, bare, wild, inside]
        cases star : range.field.star with
        | true =>
            have wild : range.wildcard = true := by
              simp only [RangePart.field, Bool.and_eq_true] at star
              exact star.1
            refine Or.inr ⟨⟨range.step, interval (valid.whole wild).1 ?_ (Or.inr wild)⟩, Or.inl ?_⟩
            · rw [element.explicitRange, wild]
              rfl
            · rw [Reference.meaningfulField_star star]
              rfl
        | false =>
            have marked := marked_meaningful listed element valid star narrow
            rcases plain with text | short | steps
            · rcases Reference.eq_of_wildMark_star text with star | question
              · exact absurd (star ▸ marked) (by decide)
              · exact absurd (question ▸ marked) (by decide)
            · exact absurd marked (unmarked_of_isShort (Reference.isShort_of_wildMark short))
            · have kept := steps
              rw [meaningful_single listed valid star narrow] at kept
              obtain ⟨stepped, low, bare⟩ := element.fromZero valid kept
              exact Or.inr ⟨⟨range.step, interval low bare (Or.inl stepped)⟩, Or.inr steps⟩

def HourPattern.stepsHours (hour : HourPattern) : Prop :=
  hour.interval ≠ 1 ∧ ∀ lo hi, hour.range = some (lo, hi) → hour.interval ≤ hi - lo

theorem lastStep_single {editor : FieldBounds} {part ends : Text} {stepStrs : List Text}
    {range : RangePart} (element : Element editor part ends stepStrs range)
    (stepped : range.stepped = true) (small : range.step < 100) :
    Reference.lastStep (replaceNumerals [] part) = some range.step := by
  have step := element.step
  have short := element.short
  have isStepped := element.stepped
  rw [Reference.lastStep, splitOn_replaceNumerals slash_separates, element.pieces]
  match stepStrs with
  | [] => simp [stepped] at isStepped
  | [stepStr] =>
      obtain ⟨number, -⟩ := atoi_of_getStep step
      have safe : isSafeInteger range.step = true := by
        simp only [isSafeInteger, decide_eq_true_eq]
        omega
      have rewritten := replaceNumerals_of_atoi number
      rw [if_pos safe] at rewritten
      simp [rewritten, Reference.isShort_decimal small]

theorem hour_narrow {field part ends : Text} {stepStrs : List Text} {range : RangePart}
    (listed : listElements field = [part]) (element : Element hourBounds part ends stepStrs range)
    (parse : parseRangePart (replaceNumerals [] (normalizeRange part)) hourBounds = some range)
    (narrow : range.step ≤ range.hi - range.lo) :
    ∃ hour, parseHourPattern (replaceNumerals [] (normalizeRange part)) = some hour ∧
      (hour.stepsHours → Reference.lastStep (Reference.meaningfulField field range.field) =
        some hour.interval) := by
  have valid := parseRangePart_valid hour_agree parse
  have small : range.step ≤ 23 := by
    have high : range.hi ≤ 23 := valid.high
    omega
  simp only [parseHourPattern, parse]
  rw [if_neg (show ¬hourBounds.max < range.step from Nat.not_lt.mpr small)]
  refine ⟨_, rfl, ?_⟩
  rintro ⟨several, -⟩
  dsimp only at several ⊢
  have stepped : range.stepped = true := by
    by_contra unstepped
    exact several (valid.unstepped (by simpa using unstepped))
  have star : range.field.star = false := by simp [RangePart.field, several]
  rw [meaningful_single listed valid star narrow]
  exact lastStep_single element stepped (by omega)

theorem hour_wide {text : Text} {range : RangePart} (parse : parseRangePart text hourBounds = some range)
    (wide : range.hi - range.lo < range.step) :
    ∃ hour, parseHourPattern (collapsePart hourBounds true text) = some hour ∧ ¬hour.stepsHours := by
  have valid := parseRangePart_valid hour_agree parse
  have ordered := valid.ordered
  have high : range.hi ≤ hourBounds.max := valid.high
  have first : OpenWindow range.lo range.lo := by
    refine ⟨Nat.le_refl _, Nat.le_trans ordered high, ?_⟩
    rintro ⟨zero, last⟩
    rw [zero] at last
    exact absurd last (by decide)
  have kept : range.step ≤ hourBounds.max →
      ∃ hour, parseHourPattern text = some hour ∧ ¬hour.stepsHours := by
    intro small
    have proper : ¬(range.lo = hourBounds.min ∧ range.hi = hourBounds.max) := by
      rintro ⟨zero, last⟩
      rw [zero, last] at wide
      exact absurd (Nat.lt_of_lt_of_le wide small) (by decide)
    have written : range.wildcard = false := by
      by_contra wild
      exact proper (valid.whole (by simpa using wild))
    refine ⟨_, parseHourPattern_part parse small written ⟨ordered, high, proper⟩, ?_⟩
    rintro ⟨-, within⟩
    exact absurd (within _ _ rfl) (Nat.not_le.mpr wide)
  simp only [collapsePart, parse]
  split
  · rename_i unstepped
    refine kept ?_
    rw [valid.unstepped (by simpa using unstepped)]
    decide
  · split
    · rename_i within
      simp only [Bool.and_eq_true, decide_eq_true_eq] at within
      exact kept within.2
    · refine ⟨_, parseHourPattern_decimal first, ?_⟩
      rintro ⟨several, -⟩
      exact several rfl

theorem hour_taken {field : Text} {parsed : Reference.Field} (shape : FieldShape hourBounds field parsed)
    (unrepeated : repeatsValue field parsed = false)
    (commaFree : ',' ∉ Reference.meaningfulField field parsed) :
    ∃ hour, parseHourPattern (hourRewrite (normalizeField field)) = some hour ∧
      (hour.stepsHours →
        Reference.lastStep (Reference.meaningfulField field parsed) = some hour.interval) := by
  cases shape with
  | everything many star rewritten =>
      refine ⟨⟨1, none⟩, ?_, fun steps => absurd rfl steps.1⟩
      rw [hourRewrite, rewritten]
      rfl
  | list many star rewritten => exact absurd (comma_mem_meaningful many star unrepeated) commaFree
  | single part ends stepStrs range listed element safe same =>
      subst same
      have parse := element.parse
      rw [if_pos safe] at parse
      rw [hourRewrite, rewrite_single hour_agree listed parse true]
      by_cases wide : range.hi - range.lo < range.step
      · obtain ⟨hour, read, single⟩ := hour_wide parse wide
        exact ⟨hour, read, fun steps => absurd steps single⟩
      · have narrow := Nat.not_lt.mp wide
        rw [collapsePart_narrow parse narrow]
        exact hour_narrow listed element parse narrow

section Agreeing

variable {editor : FieldBounds} {server : Reference.Bounds}

theorem slash_mem_single {field part : Text} (listed : listElements field = [part]) :
    '/' ∈ field ↔ '/' ∈ part := by
  constructor
  · intro member
    obtain ⟨piece, found, inside⟩ := @exists_mem_splitOn ',' '/' _ member (by decide)
    have element : piece ∈ listElements field :=
      List.mem_filter.mpr ⟨found, by simpa using List.ne_nil_of_mem inside⟩
    rw [listed, List.mem_singleton] at element
    rwa [← element]
  · intro member
    have element : part ∈ listElements field := by simp [listed]
    exact mem_of_mem_splitOn (List.mem_filter.mp element).1 member

theorem wildcard_taken (agree : Agree editor server) {field : Text} {parsed : Reference.Field}
    (shape : FieldShape editor field parsed) (star : parsed.star = true)
    (bare : steppedWildcard field parsed = false) :
    collapseWildcardList (normalizeField field) editor = ['*'] := by
  cases shape with
  | everything many star rewritten => exact rewritten
  | list many pinned rewritten => simp [pinned] at star
  | single part ends stepStrs range listed element safe same =>
      subst same
      have free : '/' ∉ part := by
        intro slash
        simp [steppedWildcard, star, listed, (slash_mem_single listed).mpr slash] at bare
      obtain ⟨ends', others, before, after⟩ := splitOn_normalizeRange part
      rw [List.splitOn_eq_singleton free, List.cons.injEq] at before
      obtain ⟨rfl, rfl⟩ := before
      have pieces := element.pieces
      rw [List.splitOn_eq_singleton free, List.cons.injEq] at pieces
      have wild : isWildcardEnd ((part.splitOn '-').headD []) = true := by
        simp only [RangePart.field, Bool.and_eq_true] at star
        rw [pieces.1, ← element.wildcard]
        exact star.1
      have whole := join_splitOn '/' (normalizeRange part)
      rw [after, join_singleton, normalizedEnds, if_pos wild] at whole
      have parse := element.parse
      rw [if_pos safe] at parse
      rw [normalizeField_single listed, collapseWildcardList_single (comma_notMem_parseRangePart agree parse),
        ← whole]
      rfl

theorem meaningful_pinned (agree : Agree editor server) {field : Text} {parsed : Reference.Field}
    (shape : FieldShape editor field parsed) (star : parsed.star = false) :
    (∃ value, parsed.values.dedup = [value] ∧ Reference.meaningfulField field parsed = decimal value) ∨
      ∃ mark ∈ [',', '/', '-'], mark ∈ Reference.meaningfulField field parsed := by
  by_cases single : ∃ value, parsed.values.dedup = [value]
  · obtain ⟨value, single⟩ := single
    exact Or.inl ⟨value, single, Reference.meaningfulField_value star single⟩
  · refine Or.inr ?_
    cases shape with
    | everything many wild rewritten => simp [star] at wild
    | list many pinned rewritten =>
        refine ⟨',', by simp, comma_mem_meaningful many star ?_⟩
        rw [repeatsValue, Bool.and_eq_false_iff]
        refine Or.inl (decide_eq_false fun length => single ?_)
        exact List.length_eq_one_iff.mp length
    | single part ends stepStrs range listed element safe same =>
        subst same
        have parse := element.parse
        rw [if_pos safe] at parse
        have valid := parseRangePart_valid agree parse
        have narrow : range.step ≤ range.hi - range.lo := by
          by_contra wide
          exact single ⟨range.lo, field_single valid (Nat.not_le.mp wide)⟩
        rcases marked_meaningful listed element valid star narrow with slash | dash
        · exact ⟨'/', by simp, slash⟩
        · exact ⟨'-', by simp, dash⟩

theorem star_of_meaningful (agree : Agree editor server) {field : Text} {parsed : Reference.Field}
    (shape : FieldShape editor field parsed)
    (meaning : Reference.meaningfulField field parsed = ['*']) : parsed.star = true := by
  by_contra pinned
  rcases meaningful_pinned agree shape (by simpa using pinned) with ⟨value, -, number⟩ | ⟨mark, known, inside⟩
  · exact decimal_ne_wildcard value (Or.inl (number ▸ meaning))
  · rw [meaning, List.mem_singleton] at inside
    subst inside
    exact absurd known (by decide)

theorem dom_taken {field : Text} {parsed : Reference.Field} (shape : FieldShape domBounds field parsed)
    (star : parsed.star = false) (unrepeated : repeatsValue field parsed = false)
    (short : Reference.isShort (Reference.meaningfulField field parsed) = true) :
    domRewrite (normalizeField field) ≠ ['*'] ∧
      ∃ value, plainValue (domRewrite (normalizeField field)) domBounds = some value := by
  rcases meaningful_pinned dom_agree shape star with ⟨value, single, -⟩ | ⟨mark, known, inside⟩
  · cases shape with
    | everything many wild rewritten => simp [star] at wild
    | list many pinned rewritten => simp [repeatsValue, single, many] at unrepeated
    | single part ends stepStrs range listed element safe same =>
        subst same
        have parse := element.parse
        rw [if_pos safe] at parse
        have valid := parseRangePart_valid dom_agree parse
        have wide : range.hi - range.lo < range.step := by
          by_contra narrow
          exact field_many valid (Nat.not_lt.mp narrow) value single
        rw [domRewrite, rewrite_single dom_agree listed parse false, collapsePart_wide parse wide]
        exact ⟨fun star => decimal_ne_wildcard _ (Or.inl star), range.lo,
          plainValue_decimal dom_agree valid.low (Nat.le_trans valid.ordered valid.high)⟩
  · have other : mark.isDigit = false := by
      simp only [List.mem_cons, List.not_mem_nil, or_false] at known
      rcases known with rfl | rfl | rfl
      all_goals decide
    exact absurd inside (Reference.notMem_of_isShort short other)

theorem dow_taken {field : Text} {parsed : Reference.Field}
    (read : Reference.parseField field Reference.dowBounds = some parsed)
    (nonempty : listElements field ≠ []) (safe : hasWideStep field = false) (selects : parsed.values ≠ []) :
    ∃ days, parseDays ['*'] (collapseWildcardList (normalizeField field) dowBounds) = some days := by
  obtain ⟨ranges, found⟩ := fieldRanges_of_parseField dow_agree read nonempty safe
  have same := eq_rangesField dow_agree read found
  have expanded : ∃ days, expandDow (normalizeField field) = some days := by
    rw [fieldRanges] at found
    rw [expandDow, found]
    dsimp only
    rw [if_neg]
    · exact ⟨_, rfl⟩
    · rw [same, rangesField, List.flatMap_map] at selects
      exact selects
  obtain ⟨days, expanded⟩ := expanded
  have either : collapseWildcardList (normalizeField field) dowBounds = ['*'] ∨
      collapseWildcardList (normalizeField field) dowBounds = normalizeField field := by
    simp only [collapseWildcardList]
    repeat' split
    · exact Or.inr rfl
    · exact Or.inr rfl
    · exact Or.inl rfl
    · exact Or.inr rfl
  rw [parseDays, if_pos rfl]
  rcases either with star | kept
  · rw [if_pos star]
    exact ⟨_, rfl⟩
  · rw [kept, expanded]
    split
    · exact ⟨_, rfl⟩
    · exact ⟨_, rfl⟩

end Agreeing

theorem splitSpaces_of_filter {text first : Text} {rest : List Text}
    (kept : (splitSpaces text).filter (· ≠ []) = first :: rest) : splitSpaces text = first :: rest := by
  rw [← kept]
  rw [splitSpaces] at kept ⊢
  split
  · rename_i empty
    simp [empty] at kept
  · rw [List.filter_filter]
    simp

theorem fields_of_reference {expr : Text} {spec : Reference.Spec}
    (read : Reference.reference expr = some spec) :
    ∃ minute hour dom month dow, Reference.referenceFields expr = [minute, hour, dom, month, dow] := by
  rw [Reference.reference] at read
  split at read
  · rename_i minute hour dom month dow fields
    exact ⟨minute, hour, dom, month, dow, fields⟩
  · contradiction

theorem meaningfulFields_eq {expr : Text} (spec : Reference.Spec) {minute hour dom month dow : Text}
    (fields : Reference.referenceFields expr = [minute, hour, dom, month, dow]) :
    Reference.meaningfulFields (Reference.specBody expr) spec =
      [Reference.meaningfulField minute spec.minute, Reference.meaningfulField hour spec.hour,
        Reference.meaningfulField dom spec.dom, Reference.meaningfulField month spec.month,
        Reference.meaningfulField dow spec.dow] := by
  rw [Reference.referenceFields] at fields
  split at fields
  · contradiction
  · rename_i body found
    rw [Reference.meaningfulFields, Reference.specBody, found, Option.getD_some, trim_trim,
      splitSpaces_of_filter fields]
    rfl

structure Unexcluded (canonicalPickerZone : Text → Option Text) (expr : Text) (spec : Reference.Spec)
    (minute hour dom month dow : Text) : Prop where
  fires : ∀ parsed ∈ [spec.minute, spec.hour, spec.dom, spec.month, spec.dow], parsed.values ≠ []
  minutePlain : Reference.wildMark minute = ['*'] ∨ Reference.isShort (Reference.wildMark minute) = true ∨
    Reference.stepsFromZero (Reference.wildMark minute) = true
  hourPlain : ',' ∉ hour
  oneStep : (Reference.wildMark minute = ['*'] ∨ Reference.stepsFromZero (Reference.wildMark minute) = true) →
    ∀ step, Reference.lastStep hour = some step → step = 1
  domPlain : dom = ['*'] ∨ Reference.isShort dom = true
  domAlone : dom = ['*'] ∨ dow = ['*']
  monthOpen : month = ['*']
  zoneKnown : ∀ name, Reference.referenceZone expr = some name →
    ∃ timezone, canonicalPickerZone name = some timezone

theorem unexcluded (canonicalPickerZone : Text → Option Text) {expr : Text} {spec : Reference.Spec}
    {minute hour dom month dow : Text}
    (fields : Reference.referenceFields expr = [minute, hour, dom, month, dow])
    (allowed : Reference.excluded canonicalPickerZone expr spec = false) :
    Unexcluded canonicalPickerZone expr spec (Reference.meaningfulField minute spec.minute)
      (Reference.meaningfulField hour spec.hour) (Reference.meaningfulField dom spec.dom)
      (Reference.meaningfulField month spec.month) (Reference.meaningfulField dow spec.dow) := by
  rw [Reference.excluded, meaningfulFields_eq spec fields, List.any_eq_false] at allowed
  have refuses : ∀ holds ∈ Reference.exclusions canonicalPickerZone, _ :=
    fun holds member => allowed holds member
  simp only [Reference.exclusions, List.forall_mem_cons, List.not_mem_nil, false_implies, implies_true,
    and_true, Bool.not_eq_true] at refuses
  obtain ⟨never, minuteList, hourList, twoSteps, domPlain, domDow, monthPlain, zone⟩ := refuses
  constructor
  · intro parsed member
    have selected := List.any_eq_false.mp never parsed member
    simpa using selected
  · simp only [Reference.minuteIsList, List.getD_cons_zero] at minuteList
    split at minuteList
    · exact Or.inl ‹_›
    · split at minuteList
      · exact Or.inr (Or.inl ‹_›)
      · exact Or.inr (Or.inr (by simpa using minuteList))
  · intro comma
    have marked := Reference.comma_mem_wildMark comma
    simp only [Reference.hourIsList, List.getD_cons_succ, List.getD_cons_zero, Bool.not_eq_false',
      Bool.or_eq_true, decide_eq_true_eq] at hourList
    rcases hourList with (star | short) | range
    · exact absurd (star ▸ marked) (by decide)
    · exact Reference.notMem_of_isShort short (by decide) marked
    · exact Reference.comma_notMem_of_isHourRange range marked
  · intro stepped step found
    simp only [Reference.twoSteps, List.getD_cons_succ, List.getD_cons_zero, found, Option.any_some,
      Bool.and_eq_false_iff, Bool.or_eq_false_iff, decide_eq_false_iff_not, not_not] at twoSteps
    rcases twoSteps with unstepped | same
    · rcases stepped with star | steps
      · exact absurd star unstepped.1
      · rw [unstepped.2] at steps
        contradiction
    · exact same
  · simpa [Reference.domIsNotSingle, imp_iff_not_or] using domPlain
  · simp only [Reference.domBesideDow, List.getD_cons_succ, List.getD_cons_zero, Bool.and_eq_false_iff,
      decide_eq_false_iff_not, not_not] at domDow
    exact domDow
  · simpa [Reference.monthIsPinned] using monthPlain
  · intro name found
    simp only [Reference.zoneIsNotOffered, found, Option.any_some, decide_eq_false_iff_not] at zone
    exact Option.ne_none_iff_exists'.mp zone

theorem getRange_opening {char : Char} (opening : Opening char) (text : Text) :
    Reference.getRange (char :: text) Reference.minuteBounds = none := by
  obtain ⟨range, tails, split⟩ := splitOn_cons_keep opening.notSlash text
  obtain ⟨low, highs, ends⟩ := splitOn_cons_keep opening.notDash range
  have unread : Reference.parseIntOrName (char :: low) Reference.minuteBounds = none := by
    simp [Reference.parseIntOrName, Reference.minuteBounds, Reference.atoi, unsigned, opening.notPlus,
      isNumeral, opening.notDigit]
  have refused : ∀ stepped, Reference.getEnds (char :: range) stepped Reference.minuteBounds = none := by
    intro stepped
    rw [Reference.getEnds, ends]
    rcases highs with _ | ⟨high, _ | ⟨next, rest⟩⟩
    · simp [unread, opening.notStar, opening.notQuestion]
    · simp [unread, opening.notStar, opening.notQuestion]
    · simp [opening.notStar, opening.notQuestion]
  rw [Reference.getRange, split]
  dsimp only
  split
  · rfl
  · simp [refused]

theorem parseField_opening {char : Char} (opening : Opening char) (text : Text) :
    Reference.parseField (char :: text) Reference.minuteBounds = none := by
  obtain ⟨first, rest, split⟩ := splitOn_cons_keep opening.notComma text
  have elements : listElements (char :: text) = (char :: first) :: rest.filter (· ≠ []) := by
    rw [listElements, split]
    simp
  cases read : Reference.parseField (char :: text) Reference.minuteBounds with
  | none => rfl
  | some parsed =>
      obtain ⟨fields, found, -⟩ := getRange_of_parseField read
      rw [elements] at found
      obtain ⟨result, others, here, -, -⟩ := ListLib.mapM_cons_some found
      rw [getRange_opening opening] at here
      contradiction

theorem parseCron_eq_parseBody (canonicalPickerZone : Text → Option Text) {expr : Text} (timezone : Text)
    {spec : Reference.Spec} {minute : Text} {others : List Text}
    (fields : Reference.referenceFields expr = minute :: others)
    (minuteRead : Reference.parseField minute Reference.minuteBounds = some spec.minute)
    (zoneKnown : ∀ name, Reference.referenceZone expr = some name →
      ∃ timezone, canonicalPickerZone name = some timezone) :
    ∃ zone body, parseCron canonicalPickerZone expr timezone = parseBody zone body ∧
      splitSpaces (trim body) = minute :: others := by
  by_cases prefixed : hasTimezonePrefix expr = true
  · rw [Reference.referenceFields, Reference.referenceBody] at fields
    simp only [prefixed, Bool.not_true, Bool.false_eq_true, if_false] at fields
    by_cases spaced : ' ' ∉ expr
    · simp [spaced] at fields
    · rw [if_neg spaced] at fields
      dsimp only at fields
      have split := splitSpaces_of_filter fields
      rw [trim_trim] at split
      have nonempty : trim (expr.dropWhile (· ≠ ' ')) ≠ [] := by
        intro empty
        rw [trim_trim, empty] at fields
        simp [splitSpaces] at fields
      have bare : hasTimezonePrefix (trim (expr.dropWhile (· ≠ ' '))) = false := by
        by_contra doubled
        obtain ⟨char, rest, shape, opening⟩ := opening_of_prefix (Bool.eq_true_of_not_eq_false doubled)
        obtain ⟨word, words, firstField⟩ := firstField_opening opening rest
        rw [← shape, trim_trim, split, List.cons.injEq] at firstField
        rw [firstField.1, parseField_opening opening] at minuteRead
        contradiction
      obtain ⟨found, known⟩ := zoneKnown _ (by
        rw [Reference.referenceZone, prefixed, Bool.not_true, if_neg Bool.false_ne_true, if_neg spaced])
      have extracted : extractTimezonePrefix canonicalPickerZone expr =
          some ⟨found, trim (expr.dropWhile (· ≠ ' '))⟩ := by
        rw [extractTimezonePrefix, prefixed, Bool.not_true, if_neg Bool.false_ne_true, if_neg spaced]
        simp only [nonempty, if_false, bare, Bool.false_eq_true, known]
      refine ⟨_, _, parseCron_extracted canonicalPickerZone timezone extracted, ?_⟩
      rw [trim_trim]
      exact split
  · have unextracted : extractTimezonePrefix canonicalPickerZone expr = none := by
      simp [extractTimezonePrefix, prefixed]
    refine ⟨_, _, parseCron_unextracted canonicalPickerZone timezone unextracted, ?_⟩
    rw [Reference.referenceFields, Reference.referenceBody] at fields
    simp only [prefixed, Bool.not_false, if_true] at fields
    exact splitSpaces_of_filter fields

theorem parseBody_structured {timezone body minute hour dom month dow : Text}
    (fields : splitSpaces (trim body) = [minute, hour, dom, month, dow])
    (everyMonth : collapseWildcardList (normalizeField month) monthBounds = ['*'])
    (days : ∃ days, parseDays (domRewrite (normalizeField dom))
      (collapseWildcardList (normalizeField dow) dowBounds) = some days)
    (time : ∃ time, parseTimeFields (minuteRewrite (normalizeField minute))
      (hourRewrite (normalizeField hour)) = some time) :
    (parseBody timezone body).raw = none := by
  obtain ⟨days, readDays⟩ := days
  obtain ⟨time, readTime⟩ := time
  rw [parseBody, fields]
  simp only [List.map_cons, List.map_nil, everyMonth, ne_eq, not_true_eq_false, if_false, readDays,
    readTime]

structure PlainSpelling (spec : Reference.Spec) (minute hour dom month dow : Text) : Prop where
  narrow : ∀ field ∈ [minute, hour, dom, month, dow], hasWideStep field = false
  minuteOnce : repeatsValue minute spec.minute = false
  hourOnce : repeatsValue hour spec.hour = false
  domOnce : repeatsValue dom spec.dom = false
  domBare : steppedWildcard dom spec.dom = false
  monthBare : steppedWildcard month spec.month = false
  dowBare : spec.dom.star = true ∨ steppedWildcard dow spec.dow = false

theorem time_taken {minute hour : Text} {minuteField hourField : Reference.Field}
    (minuteShape : FieldShape minuteBounds minute minuteField)
    (hourShape : FieldShape hourBounds hour hourField)
    (minuteOnce : repeatsValue minute minuteField = false) (hourOnce : repeatsValue hour hourField = false)
    (minutePlain : Reference.wildMark (Reference.meaningfulField minute minuteField) = ['*'] ∨
      Reference.isShort (Reference.wildMark (Reference.meaningfulField minute minuteField)) = true ∨
      Reference.stepsFromZero (Reference.wildMark (Reference.meaningfulField minute minuteField)) = true)
    (hourPlain : ',' ∉ Reference.meaningfulField hour hourField)
    (oneStep : (Reference.wildMark (Reference.meaningfulField minute minuteField) = ['*'] ∨
        Reference.stepsFromZero (Reference.wildMark (Reference.meaningfulField minute minuteField)) = true) →
      ∀ step, Reference.lastStep (Reference.meaningfulField hour hourField) = some step → step = 1) :
    ∃ time, parseTimeFields (minuteRewrite (normalizeField minute)) (hourRewrite (normalizeField hour)) =
      some time := by
  obtain ⟨pattern, hourRead, steps⟩ := hour_taken hourShape hourOnce hourPlain
  have minuteRead := minute_taken minuteShape minuteOnce minutePlain
  cases plain : plainValue (minuteRewrite (normalizeField minute)) minuteBounds with
  | some value =>
      simp only [parseTimeFields, plain, hourRead]
      split
      · exact ⟨_, rfl⟩
      · exact ⟨_, rfl⟩
  | none =>
      rw [plain] at minuteRead
      rcases minuteRead with ⟨value, absent⟩ | ⟨⟨interval, intervalRead⟩, stepped⟩
      · contradiction
      · have single : ¬pattern.stepsHours := by
          intro several
          exact several.1 (oneStep stepped _ (steps several))
        simp only [parseTimeFields, plain, intervalRead, hourRead]
        cases ends : pattern.range with
        | none =>
            have hourly : pattern.interval = 1 := by
              by_contra several
              exact single ⟨several, fun lo hi window => by simp [ends] at window⟩
            simp [hourly]
        | some window =>
            obtain ⟨lo, hi⟩ := window
            by_cases oneHour : pattern.interval > hi - lo
            · simp [oneHour]
            · have hourly : pattern.interval = 1 := by
                by_contra several
                refine single ⟨several, fun low high window => ?_⟩
                rw [ends, Option.some.injEq, Prod.mk.injEq] at window
                omega
              simp [hourly]

theorem elements_of_values {field : Text} {parsed : Reference.Field} {server : Reference.Bounds}
    (read : Reference.parseField field server = some parsed) (selects : parsed.values ≠ []) :
    listElements field ≠ [] := by
  intro empty
  rw [Reference.parseField, empty, List.mapM_nil] at read
  cases read
  exact selects rfl

theorem structured_of_plain (canonicalPickerZone : Text → Option Text) {expr : Text} (timezone : Text)
    {spec : Reference.Spec} {minute hour dom month dow : Text}
    (fields : Reference.referenceFields expr = [minute, hour, dom, month, dow])
    (read : Reference.reference expr = some spec)
    (allowed : Reference.excluded canonicalPickerZone expr spec = false)
    (plain : PlainSpelling spec minute hour dom month dow) :
    (parseCron canonicalPickerZone expr timezone).raw = none := by
  obtain ⟨minuteRead, hourRead, domRead, monthRead, dowRead⟩ := (reference_eq_some fields).mp read
  have reasons := unexcluded canonicalPickerZone fields allowed
  have fires := reasons.fires
  have narrow := plain.narrow
  simp only [List.forall_mem_cons, List.not_mem_nil, false_implies, implies_true, and_true] at fires narrow
  obtain ⟨minuteFires, hourFires, domFires, monthFires, dowFires⟩ := fires
  obtain ⟨minuteNarrow, hourNarrow, domNarrow, monthNarrow, dowNarrow⟩ := narrow
  have minuteShape := fieldShape minute_agree minuteRead (elements_of_values minuteRead minuteFires) minuteNarrow
  have hourShape := fieldShape hour_agree hourRead (elements_of_values hourRead hourFires) hourNarrow
  have domShape := fieldShape dom_agree domRead (elements_of_values domRead domFires) domNarrow
  have monthShape := fieldShape month_agree monthRead (elements_of_values monthRead monthFires) monthNarrow
  have dowShape := fieldShape dow_agree dowRead (elements_of_values dowRead dowFires) dowNarrow
  obtain ⟨zone, body, same, split⟩ :=
    parseCron_eq_parseBody canonicalPickerZone timezone fields minuteRead reasons.zoneKnown
  have monthStar := star_of_meaningful month_agree monthShape reasons.monthOpen
  rw [same]
  refine parseBody_structured split (wildcard_taken month_agree monthShape monthStar plain.monthBare) ?_
    (time_taken minuteShape hourShape plain.minuteOnce plain.hourOnce reasons.minutePlain reasons.hourPlain
      reasons.oneStep)
  cases star : spec.dom.star with
  | true =>
      have whole : domRewrite (normalizeField dom) = ['*'] := by
        rw [domRewrite, wildcard_taken dom_agree domShape star plain.domBare]
        decide
      rw [whole]
      exact dow_taken dowRead (elements_of_values dowRead dowFires) dowNarrow dowFires
  | false =>
      have pinned : Reference.meaningfulField dom spec.dom ≠ ['*'] := by
        intro text
        rw [star_of_meaningful dom_agree domShape text] at star
        contradiction
      have short := reasons.domPlain.resolve_left pinned
      obtain ⟨notStar, value, single⟩ := dom_taken domShape star plain.domOnce short
      have dowStar := star_of_meaningful dow_agree dowShape (reasons.domAlone.resolve_left pinned)
      have dowBare : steppedWildcard dow spec.dow = false := by
        have either := plain.dowBare
        rw [star] at either
        exact either.resolve_left Bool.false_ne_true
      have whole := wildcard_taken dow_agree dowShape dowStar dowBare
      rw [parseDays, if_neg notStar, whole, if_neg (by simp), single]
      exact ⟨_, rfl⟩

section Agreeing

variable {editor : FieldBounds} {server : Reference.Bounds}

theorem splitOn_single {text : Text} {range : RangePart} (found : fieldRanges text editor = some [range]) :
    (text.splitOn ',').length = 1 := by
  rw [fieldRanges] at found
  rcases pieces : text.splitOn ',' with _ | ⟨first, _ | ⟨second, rest⟩⟩
  · exact absurd pieces (List.splitOn_ne_nil ',' text)
  · rfl
  · rw [pieces] at found
    obtain ⟨_, others, -, later, same⟩ := ListLib.mapM_cons_some found
    obtain ⟨_, _, -, -, rfl⟩ := ListLib.mapM_cons_some later
    simp at same

theorem star_not_single (agree : Agree editor server) {field : Text} {parsed : Reference.Field}
    {ranges : List RangePart} (read : Reference.parseField field server = some parsed)
    (found : fieldRanges (normalizeField field) editor = some ranges) (star : parsed.star = true)
    (value : Nat) : parsed.values.dedup ≠ [value] := by
  intro single
  rw [Reference.dedup_eq_singleton] at single
  have same := eq_rangesField agree read found
  subst same
  simp only [rangesField, List.any_map, List.any_eq_true, Function.comp_apply, RangePart.field,
    Bool.and_eq_true, decide_eq_true_eq] at star
  obtain ⟨range, listed, wild, step⟩ := star
  obtain ⟨part, -, parse⟩ := ListLib.mem_of_mapM found listed
  have valid := parseRangePart_valid agree parse
  have whole := valid.whole wild
  have span := agree.span
  have selected : ∀ other, range.lo ≤ other → other ≤ range.hi → other = value := by
    intro other low high
    refine (single other).mp (mem_rangesField.mpr ⟨range, listed, valid.mem_field.mpr ⟨low, high, ?_⟩⟩)
    rw [step]
    exact Nat.one_dvd _
  have first := selected range.lo (Nat.le_refl _) valid.ordered
  have last := selected range.hi valid.ordered (Nat.le_refl _)
  omega

theorem once_of_single (agree : Agree editor server) {field : Text} {parsed : Reference.Field}
    {ranges : List RangePart} (rangeSlot : Bool)
    (read : Reference.parseField field server = some parsed)
    (found : fieldRanges (normalizeField field) editor = some ranges)
    (single : ((collapseDegenerateRange (collapseWildcardList (normalizeField field) editor) editor
      rangeSlot).splitOn ',').length = 1) : repeatsValue field parsed = false := by
  by_contra repeated
  rw [Bool.not_eq_false, repeatsValue, Bool.and_eq_true, decide_eq_true_eq, decide_eq_true_eq] at repeated
  obtain ⟨once, many⟩ := repeated
  obtain ⟨value, selected⟩ := List.length_eq_one_iff.mp once
  have nonempty : listElements field ≠ [] := by
    intro empty
    simp [empty] at many
  cases fieldShape agree read nonempty (safe_of_fieldRanges agree read found) with
  | single part ends stepStrs range listed element safe same => simp [listed] at many
  | everything _ star _ => exact star_not_single agree read found star value selected
  | list _ star rewritten =>
      rw [splitOn_collapseDegenerateRange, rewritten, splitOn_normalizeField nonempty, List.length_map,
        List.length_map] at single
      omega

theorem steppedWildcard_kept (agree : Agree editor server) {field : Text} {parsed : Reference.Field}
    {ranges : List RangePart} (read : Reference.parseField field server = some parsed)
    (found : fieldRanges (normalizeField field) editor = some ranges)
    (stepped : steppedWildcard field parsed = true) :
    collapseWildcardList (normalizeField field) editor ≠ ['*'] ∧
      collapseDegenerateRange (collapseWildcardList (normalizeField field) editor) editor false ≠ ['*'] ∧
      plainValue (collapseDegenerateRange (collapseWildcardList (normalizeField field) editor) editor false)
        editor = none := by
  simp only [steppedWildcard, Bool.and_eq_true, decide_eq_true_eq] at stepped
  obtain ⟨⟨star, one⟩, slash⟩ := stepped
  have nonempty : listElements field ≠ [] := by
    intro empty
    simp [empty] at one
  cases fieldShape agree read nonempty (safe_of_fieldRanges agree read found) with
  | everything many _ _ => omega
  | list many _ _ => omega
  | single part ends stepStrs range listed element safe same =>
      subst same
      have parse := element.parse
      rw [if_pos safe] at parse
      have valid := parseRangePart_valid agree parse
      simp only [RangePart.field, Bool.and_eq_true, decide_eq_true_eq] at star
      have narrow : range.step ≤ range.hi - range.lo := by
        have whole := valid.whole star.1
        have span := agree.span
        omega
      have kept : '/' ∈ replaceNumerals [] (normalizeRange part) := by
        refine mem_replaceNumerals_separator slash_separates ?_
        obtain ⟨first, tails, before, after⟩ := splitOn_normalizeRange part
        by_contra free
        rw [List.splitOn_eq_singleton free, List.cons.injEq] at after
        have inside := (slash_mem_single listed).mp slash
        have whole := join_splitOn '/' part
        have firstFree := not_mem_of_mem_splitOn '/' part first (by simp [before])
        rw [before, ← after.2, join_singleton] at whole
        exact firstFree (whole ▸ inside)
      have notStar : replaceNumerals [] (normalizeRange part) ≠ ['*'] := by
        intro text
        rw [text] at kept
        exact absurd kept (by decide)
      rw [rewrite_single agree listed parse false, collapsePart_narrow parse narrow,
        normalizeField_single listed, collapseWildcardList_single (comma_notMem_parseRangePart agree parse)]
      refine ⟨notStar, notStar, ?_⟩
      simp [plainValue, parse, star.1]

end Agreeing

theorem dom_spelled {dom dowField : Text} {domField : Reference.Field} {days : DayPattern}
    {ranges : List RangePart} (read : Reference.parseField dom Reference.domBounds = some domField)
    (found : fieldRanges (normalizeField dom) domBounds = some ranges)
    (parsed : parseDays (domRewrite (normalizeField dom)) dowField = some days) :
    repeatsValue dom domField = false ∧ steppedWildcard dom domField = false := by
  rw [domRewrite] at parsed
  constructor
  · refine once_of_single dom_agree false read found ?_
    rw [parseDays] at parsed
    split at parsed
    · rename_i whole
      rw [whole]
      decide
    · split at parsed
      · contradiction
      · split at parsed
        · contradiction
        · rename_i value plain
          obtain ⟨range, parse, -⟩ := plainValue_spec dom_agree plain
          exact splitOn_single (fieldRanges_single dom_agree parse)
  · by_contra stepped
    obtain ⟨-, notStar, notPlain⟩ := steppedWildcard_kept dom_agree read found
      (Bool.eq_true_of_not_eq_false stepped)
    rw [parseDays, if_neg notStar, notPlain] at parsed
    simp at parsed

theorem dow_spelled {dom dow : Text} {domField dowField : Reference.Field} {days : DayPattern}
    {dowRanges : List RangePart}
    (domRead : Reference.parseField dom Reference.domBounds = some domField)
    (dowRead : Reference.parseField dow Reference.dowBounds = some dowField)
    (dowFound : fieldRanges (normalizeField dow) dowBounds = some dowRanges)
    (parsed : parseDays (domRewrite (normalizeField dom))
      (collapseWildcardList (normalizeField dow) dowBounds) = some days) :
    domField.star = true ∨ steppedWildcard dow dowField = false := by
  by_contra neither
  rw [not_or] at neither
  have notStar := (steppedWildcard_kept dow_agree dowRead dowFound
    (Bool.eq_true_of_not_eq_false neither.2)).1
  rw [parseDays] at parsed
  split at parsed
  · rename_i whole
    have wildcard : fieldRanges (domRewrite (normalizeField dom)) domBounds =
        some [wildcardPart domBounds] := by
      rw [whole]
      exact fieldRanges_single dom_agree (parseRangePart_star domBounds)
    obtain ⟨originals, read, same⟩ := domRewrite_keeps _ _ wildcard
    rw [eq_rangesField dom_agree domRead read, same.star, star_wildcardPart] at neither
    exact neither.1 rfl
  · contradiction

theorem plain_of_structured (canonicalPickerZone : Text → Option Text) {expr timezone : Text}
    {spec : Reference.Spec} (read : Reference.reference expr = some spec)
    (structured : (parseCron canonicalPickerZone expr timezone).raw = none) :
    ∃ minute hour dom month dow, Reference.referenceFields expr = [minute, hour, dom, month, dow] ∧
      PlainSpelling spec minute hour dom month dow := by
  obtain ⟨minute, hour, dom, month, dow, origin⟩ := structured_of_parseCron canonicalPickerZone structured
  refine ⟨minute, hour, dom, month, dow, origin.fields, ?_⟩
  obtain ⟨minuteRead, hourRead, domRead, monthRead, dowRead⟩ := (reference_eq_some origin.fields).mp read
  obtain ⟨minuteRange, hourRange, minuteKept, hourKept, -, -⟩ := timeFields_spec origin.time
  obtain ⟨domRanges, dowRanges, domKept, dowKept, -, -, -⟩ := dayFields_spec origin.days
  have monthKept : fieldRanges (collapseWildcardList (normalizeField month) monthBounds) monthBounds =
      some [wildcardPart monthBounds] := by
    rw [origin.everyMonth]
    exact fieldRanges_single month_agree (parseRangePart_star monthBounds)
  obtain ⟨_, minuteFound, -⟩ := minuteRewrite_keeps _ _ minuteKept
  obtain ⟨_, hourFound, -⟩ := hourRewrite_keeps _ _ hourKept
  obtain ⟨_, domFound, -⟩ := domRewrite_keeps _ _ domKept
  obtain ⟨_, monthFound, -⟩ := collapseWildcardList_keeps month_agree _ _ monthKept
  obtain ⟨_, dowFound, -⟩ := collapseWildcardList_keeps dow_agree _ _ dowKept
  obtain ⟨domOnce, domBare⟩ := dom_spelled domRead domFound origin.days
  constructor
  · simp only [List.forall_mem_cons, List.not_mem_nil, false_implies, implies_true, and_true]
    exact ⟨safe_of_fieldRanges minute_agree minuteRead minuteFound,
      safe_of_fieldRanges hour_agree hourRead hourFound, safe_of_fieldRanges dom_agree domRead domFound,
      safe_of_fieldRanges month_agree monthRead monthFound, safe_of_fieldRanges dow_agree dowRead dowFound⟩
  · exact once_of_single minute_agree false minuteRead minuteFound (splitOn_single minuteKept)
  · exact once_of_single hour_agree true hourRead hourFound (splitOn_single hourKept)
  · exact domOnce
  · exact domBare
  · by_contra stepped
    exact (steppedWildcard_kept month_agree monthRead monthFound
      (Bool.eq_true_of_not_eq_false stepped)).1 origin.everyMonth
  · exact dow_spelled domRead dowRead dowFound origin.days

def plainlySpelled (expr : Text) (spec : Reference.Spec) : Bool :=
  match Reference.referenceFields expr with
  | [minute, hour, dom, month, dow] =>
      !([minute, hour, dom, month, dow].any hasWideStep) && !repeatsValue minute spec.minute &&
        !repeatsValue hour spec.hour && !repeatsValue dom spec.dom && !steppedWildcard dom spec.dom &&
        !steppedWildcard month spec.month && (spec.dom.star || !steppedWildcard dow spec.dow)
  | _ => true

theorem plainlySpelled_iff {expr : Text} {spec : Reference.Spec} {minute hour dom month dow : Text}
    (fields : Reference.referenceFields expr = [minute, hour, dom, month, dow]) :
    plainlySpelled expr spec = true ↔ PlainSpelling spec minute hour dom month dow := by
  simp only [plainlySpelled, fields, Bool.and_eq_true, Bool.or_eq_true, Bool.not_eq_true',
    List.any_eq_false, Bool.not_eq_true]
  constructor
  · rintro ⟨⟨⟨⟨⟨⟨narrow, minuteOnce⟩, hourOnce⟩, domOnce⟩, domBare⟩, monthBare⟩, dowBare⟩
    exact ⟨narrow, minuteOnce, hourOnce, domOnce, domBare, monthBare, dowBare⟩
  · rintro ⟨narrow, minuteOnce, hourOnce, domOnce, domBare, monthBare, dowBare⟩
    exact ⟨⟨⟨⟨⟨⟨narrow, minuteOnce⟩, hourOnce⟩, domOnce⟩, domBare⟩, monthBare⟩, dowBare⟩

/-- An expression of the server is refused for a listed reason exactly when a reason applies or the
expression is plainly spelled: no repeated value, no stepped wildcard, no step past the safe integers. -/
theorem refused_for_reason_iff (canonicalPickerZone : Text → Option Text) (loadLocation : Text → Bool)
    (expr timezone : Text) (spec : Reference.Spec)
    (accepted : Reference.serverAccepts loadLocation expr spec) :
    ((parseCron canonicalPickerZone expr timezone).raw ≠ none →
        Reference.excluded canonicalPickerZone expr spec = true) ↔
      (Reference.excluded canonicalPickerZone expr spec = true ∨ plainlySpelled expr spec = true) := by
  constructor
  · intro explained
    by_cases structured : (parseCron canonicalPickerZone expr timezone).raw = none
    · obtain ⟨minute, hour, dom, month, dow, fields, plain⟩ :=
        plain_of_structured canonicalPickerZone accepted.read structured
      exact Or.inr ((plainlySpelled_iff fields).mpr plain)
    · exact Or.inl (explained structured)
  · rintro (excluded | spelled) refused
    · exact excluded
    · by_contra allowed
      obtain ⟨minute, hour, dom, month, dow, fields⟩ := fields_of_reference accepted.read
      exact refused (structured_of_plain canonicalPickerZone timezone fields accepted.read
        (Bool.eq_false_of_not_eq_true allowed) ((plainlySpelled_iff fields).mp spelled))

def ninth : Reference.Spec :=
  { minute := { values := [0], star := false }, hour := { values := [9], star := false }
    dom := { values := loopValues 1 31 1, star := true }
    month := { values := loopValues 1 12 1, star := true }
    dow := { values := loopValues 0 6 1, star := true } }

theorem refused_for_reason_ninth :
    ((parseCron some "TZ=UTC 0 09 ? * *".toList "UTC".toList).raw ≠ none →
        Reference.excluded some "TZ=UTC 0 09 ? * *".toList ninth = true) ∧
      plainlySpelled "TZ=UTC 0 09 ? * *".toList ninth = true := by
  have plain : plainlySpelled "TZ=UTC 0 09 ? * *".toList ninth = true := by decide +kernel
  exact ⟨(refused_for_reason_iff some (fun _ => true) "TZ=UTC 0 09 ? * *".toList "UTC".toList ninth
    ⟨by decide +kernel, fun _ _ => rfl⟩).mpr (Or.inr plain), plain⟩

/-- `*/1` in the month field is the server's `*`, star bit included; the editor takes it for a
pinned month. -/
theorem refused_without_reason :
    Reference.serverAccepts (fun _ => true) "0 9 * */1 *".toList ninth ∧
      (parseCron some "0 9 * */1 *".toList "UTC".toList).raw ≠ none ∧
      Reference.excluded some "0 9 * */1 *".toList ninth = false :=
  ⟨⟨by decide +kernel, fun _ _ => rfl⟩, by decide +kernel, by decide +kernel⟩

end MulticaOS.Cron
