import MulticaOS.Cron.Tokens

/-!
One list element, then one whole field: what the editor reads after its four
rewrites is what the server reads in the original text, or the server reads nothing.
-/

namespace MulticaOS.Cron

open TextLib

structure RangePart.Valid (bounds : FieldBounds) (range : RangePart) : Prop where
  low : bounds.min ≤ range.lo
  ordered : range.lo ≤ range.hi
  high : range.hi ≤ bounds.max
  positive : 1 ≤ range.step
  whole : range.wildcard = true → range.lo = bounds.min ∧ range.hi = bounds.max
  unstepped : range.stepped = false → range.step = 1
  bare : range.stepped = false → range.wildcard = false → range.explicitRange = false →
    range.hi = range.lo
  openEnd : range.stepped = true → range.explicitRange = false → range.hi = bounds.max

def RangePart.field (range : RangePart) : Reference.Field :=
  { values := loopValues range.lo range.hi range.step
    star := range.wildcard && range.step = 1 }

section Agreeing

variable {editor : FieldBounds} {server : Reference.Bounds}

theorem parseStep_spec {stepStr : Option Text} {step : Nat} (found : parseStep stepStr = some step) :
    1 ≤ step ∧ (stepStr = none → step = 1) := by
  cases stepStr with
  | none =>
      simp only [parseStep, Option.some.injEq] at found
      omega
  | some text =>
      simp only [parseStep] at found
      split at found
      · split at found
        · contradiction
        · rename_i inside
          simp only [Bool.or_eq_true, decide_eq_true_eq, not_or, Nat.not_lt] at inside
          rw [Option.some.injEq] at found
          refine ⟨by omega, fun missing => absurd missing (by simp)⟩
      · contradiction

theorem parseRange_valid (agree : Agree editor server) {rangeStr : Text} {step : Nat}
    {stepped : Bool} {range : RangePart} (positive : 1 ≤ step) (unstepped : stepped = false → step = 1)
    (found : parseRange rangeStr step stepped editor = some range) :
    range.Valid editor ∧ range.step = step := by
  have span := agree.span
  simp only [parseRange] at found
  split at found
  · rw [Option.some.injEq] at found
    subst found
    refine ⟨⟨?_, ?_, ?_, ?_, ?_, ?_, ?_, ?_⟩, rfl⟩ <;> simp_all
    omega
  · split at found
    · split at found
      · contradiction
      · rename_i lo read
        have bounded := fieldValue_bounds agree read
        cases stepped with
        | false =>
            simp only [Bool.false_eq_true, if_false, Nat.lt_irrefl, Option.some.injEq] at found
            subst found
            refine ⟨⟨?_, ?_, ?_, ?_, ?_, ?_, ?_, ?_⟩, rfl⟩ <;> simp_all
        | true =>
            simp only [if_true, Nat.not_lt.mpr bounded.2, if_false, Option.some.injEq] at found
            subst found
            refine ⟨⟨?_, ?_, ?_, ?_, ?_, ?_, ?_, ?_⟩, rfl⟩ <;> simp_all
    · split at found
      · rename_i lo hi readLow readHigh
        have boundedLow := fieldValue_bounds agree readLow
        have boundedHigh := fieldValue_bounds agree readHigh
        split at found
        · contradiction
        · rename_i ordered
          rw [Option.some.injEq] at found
          subst found
          refine ⟨⟨?_, ?_, ?_, ?_, ?_, ?_, ?_, ?_⟩, rfl⟩ <;> simp_all
      · contradiction
    · contradiction

theorem parseRangePart_valid (agree : Agree editor server) {part : Text} {range : RangePart}
    (found : parseRangePart part editor = some range) : range.Valid editor := by
  simp only [parseRangePart] at found
  split at found
  · contradiction
  · split at found
    · contradiction
    · split at found
      · contradiction
      · rename_i step readStep
        have spec := parseStep_spec readStep
        refine (parseRange_valid agree spec.1 ?_ found).1
        intro unstepped
        exact spec.2 (by simpa using unstepped)

theorem eq_of_replaceNumerals_mark {text : Text} {mark : Char} (other : mark.isDigit = false)
    (rewritten : replaceNumerals [] text = [mark]) : text = [mark] := by
  have noDigit : ∀ char ∈ text, char.isDigit = false := by
    intro char member
    by_contra digit
    obtain ⟨kept, found, keptDigit⟩ :=
      @replaceNumerals_keepsDigit [] text char (Or.inr member) (by simpa using digit)
    rw [rewritten, List.mem_singleton] at found
    rw [found, other] at keptDigit
    contradiction
  rw [← rewritten, replaceNumerals_of_noDigit (Or.inl rfl) noDigit, List.nil_append]

theorem replaceNumerals_eq_star {text : Text} : replaceNumerals [] text = ['*'] ↔ text = ['*'] := by
  constructor
  · exact eq_of_replaceNumerals_mark (by decide)
  · rintro rfl
    rfl

def normalizedEnds (range : Text) : Text :=
  if isWildcardEnd ((range.splitOn '-').headD []) then ['*'] else range

theorem splitOn_normalizeRange (part : Text) :
    ∃ range tails, part.splitOn '/' = range :: tails ∧
      (normalizeRange part).splitOn '/' = normalizedEnds range :: tails := by
  obtain ⟨tails, split⟩ := splitOn_head '/' part
  refine ⟨part.takeWhile (· ≠ '/'), tails, ?_, ?_⟩
  · rw [← split _ (notMem_takeWhile '/' part), List.takeWhile_append_dropWhile]
  · simp only [normalizeRange, normalizedEnds]
    split
    · exact split ['*'] (by decide)
    · rw [← split _ (notMem_takeWhile '/' part), List.takeWhile_append_dropWhile]

theorem getStep_spec {stepStr : Option Text} {step : Nat}
    (found : parseStep (stepStr.map (replaceNumerals [])) = some step) :
    Reference.getStep stepStr = if stepStr.all cleanText then some step else none := by
  cases stepStr with
  | none => simpa [parseStep, Reference.getStep] using found
  | some text =>
      simp only [Option.map_some, parseStep] at found
      simp only [Reference.getStep, Option.all_some]
      by_cases clean : cleanText text = true
      · split at found
        · rename_i checked
          split at found
          · contradiction
          · rename_i inside
            simp only [Bool.or_eq_true, decide_eq_true_eq, not_or, Nat.not_lt] at inside
            rw [Option.some.injEq] at found
            rw [atoi_of_replaceNumerals clean checked, if_pos clean]
            simp only
            rw [if_neg (by omega), found]
        · contradiction
      · rw [atoi_unclean (by simpa using clean), if_neg clean]

theorem getEnds_spec (agree : Agree editor server) {rangeStr : Text} {step : Nat} {stepped : Bool}
    {range : RangePart}
    (found : parseRange (replaceNumerals [] (normalizedEnds rangeStr)) step stepped editor =
      some range) :
    Reference.getEnds rangeStr stepped server =
      if cleanText (normalizedEnds rangeStr) then some (range.lo, range.hi, range.wildcard)
      else none := by
  obtain ⟨low, highs, split⟩ := List.exists_cons_of_ne_nil (List.splitOn_ne_nil '-' rangeStr)
  by_cases wild : isWildcardEnd low = true
  · have normalized : normalizedEnds rangeStr = ['*'] := by
      simp [normalizedEnds, split, wild]
    have star : replaceNumerals [] ['*'] = ['*'] := rfl
    rw [normalized, star, parseRange, if_pos rfl, Option.some.injEq] at found
    subst found
    have either : low = ['*'] ∨ low = ['?'] := by simpa [isWildcardEnd] using wild
    rw [normalized, if_pos (by decide)]
    simp only [Reference.getEnds, split, if_pos either, agree.min, agree.max]
  · have normalized : normalizedEnds rangeStr = rangeStr := by
      simp [normalizedEnds, split, wild]
    have neither : ¬(low = ['*'] ∨ low = ['?']) := by simpa [isWildcardEnd] using wild
    have notStar : replaceNumerals [] rangeStr ≠ ['*'] := by
      intro star
      have whole : ['*'].splitOn '-' = [['*']] := List.splitOn_eq_singleton (by decide)
      rw [replaceNumerals_eq_star.mp star, whole] at split
      exact neither (Or.inl (List.cons.inj split).1.symm)
    rw [normalized] at found ⊢
    rw [cleanText_splitOn dash_separates, split]
    simp only [parseRange, if_neg notStar, splitOn_replaceNumerals dash_separates, split,
      List.map_cons] at found
    simp only [Reference.getEnds, split, if_neg neither, List.all_cons, Bool.and_eq_true]
    rcases highs with _ | ⟨high, _ | ⟨next, rest⟩⟩
    · cases read : fieldValue (replaceNumerals [] low) editor with
      | none => simp [read] at found
      | some lo =>
          simp only [List.map_nil, read] at found
          by_cases clean : cleanText low = true
          · rw [parseIntOrName_of_fieldValue agree clean read, if_pos (by simp [clean])]
            rw [Option.ite_none_left_eq_some, Option.some.injEq] at found
            rw [← found.2]
            simp [agree.max]
          · rw [parseIntOrName_unclean agree (by simpa using clean), if_neg (by simp [clean])]
            rfl
    · cases readLow : fieldValue (replaceNumerals [] low) editor with
      | none => simp [readLow] at found
      | some lo =>
          cases readHigh : fieldValue (replaceNumerals [] high) editor with
          | none => simp [readLow, readHigh] at found
          | some hi =>
              simp only [List.map_cons, List.map_nil, readLow, readHigh] at found
              dsimp only
              by_cases cleanLow : cleanText low = true
              · by_cases cleanHigh : cleanText high = true
                · rw [parseIntOrName_of_fieldValue agree cleanLow readLow,
                    parseIntOrName_of_fieldValue agree cleanHigh readHigh,
                    if_pos (by simp [cleanLow, cleanHigh])]
                  rw [Option.ite_none_left_eq_some, Option.some.injEq] at found
                  rw [← found.2]
                · have refused : Reference.parseIntOrName high server = none :=
                    parseIntOrName_unclean agree (by simpa using cleanHigh)
                  rw [refused, if_neg (by simp [cleanHigh])]
                  cases Reference.parseIntOrName low server <;> rfl
              · rw [parseIntOrName_unclean agree (by simpa using cleanLow),
                  if_neg (by simp [cleanLow])]
    · simp at found

theorem getRange_spec (agree : Agree editor server) {part : Text} {range : RangePart}
    (found : parseRangePart (replaceNumerals [] (normalizeRange part)) editor = some range) :
    Reference.getRange part server =
      if cleanText (normalizeRange part) then some range.field else none := by
  have valid := parseRangePart_valid agree found
  obtain ⟨rangeStr, tails, before, after⟩ := splitOn_normalizeRange part
  simp only [parseRangePart, splitOn_replaceNumerals slash_separates, after, List.map_cons,
    List.length_map, List.head?_map] at found
  rw [cleanText_splitOn slash_separates, after, List.all_cons]
  simp only [Reference.getRange, before]
  rw [Option.ite_none_left_eq_some] at found
  obtain ⟨shape, found⟩ := found
  have nonempty : rangeStr ≠ [] := by
    rintro rfl
    exact shape (Or.inr rfl)
  rw [if_neg (by rintro (long | empty); exacts [shape (Or.inl long), nonempty empty])]
  cases readStep : parseStep (tails.head?.map (replaceNumerals [])) with
  | none => simp [readStep] at found
  | some step =>
      simp only [readStep, Option.isSome_map] at found
      have spec := parseStep_spec readStep
      have stepUsed := (parseRange_valid agree spec.1 (by simpa using spec.2) found).2
      rw [getStep_spec readStep, getEnds_spec agree found]
      have tailsClean : tails.all cleanText = tails.head?.all cleanText := by
        match tails with
        | [] => rfl
        | [only] => simp
        | _ :: _ :: _ => simp at shape
      rw [tailsClean]
      by_cases cleanStep : tails.head?.all cleanText = true
      · by_cases cleanEnds : cleanText (normalizedEnds rangeStr) = true
        · have low := valid.low
          have high := valid.high
          have ordered := valid.ordered
          simp only [cleanStep, cleanEnds, Bool.and_self, if_true, agree.min, agree.max]
          rw [if_neg (by omega), RangePart.field, stepUsed]
        · simp [cleanStep, cleanEnds]
      · simp [cleanStep]

theorem mem_loopFrom {fuel start high step value : Nat} (positive : 1 ≤ step)
    (enough : high + 1 ≤ start + fuel) :
    value ∈ loopFrom fuel start high step ↔
      start ≤ value ∧ value ≤ high ∧ step ∣ value - start := by
  induction fuel generalizing start with
  | zero =>
      simp only [loopFrom, List.not_mem_nil, false_iff]
      omega
  | succ fuel ih =>
      simp only [loopFrom]
      split
      · rename_i inside
        rw [List.mem_cons, ih (by omega)]
        constructor
        · rintro (rfl | ⟨above, below, divides⟩)
          · exact ⟨Nat.le_refl _, inside, by simp⟩
          · refine ⟨by omega, below, ?_⟩
            have split : value - start = (value - (start + step)) + step := by omega
            rw [split]
            exact Nat.dvd_add divides (Nat.dvd_refl _)
        · rintro ⟨above, below, divides⟩
          by_cases first : value = start
          · exact Or.inl first
          · have wide : step ≤ value - start := Nat.le_of_dvd (by omega) divides
            refine Or.inr ⟨by omega, below, ?_⟩
            have shorter : value - (start + step) = value - start - step := by omega
            rw [shorter]
            exact Nat.dvd_sub divides (Nat.dvd_refl _)
      · simp only [List.not_mem_nil, false_iff]
        omega

theorem mem_loopValues {low high step value : Nat} (positive : 1 ≤ step) :
    value ∈ loopValues low high step ↔ low ≤ value ∧ value ≤ high ∧ step ∣ value - low :=
  mem_loopFrom positive (by omega)

theorem loopValues_wide {low high step : Nat} (ordered : low ≤ high) (wide : high - low < step) :
    ∀ value, value ∈ loopValues low high step ↔ value = low := by
  intro value
  rw [mem_loopValues (by omega)]
  constructor
  · rintro ⟨above, below, divides⟩
    have none : value - low = 0 := Nat.eq_zero_of_dvd_of_lt divides (by omega)
    omega
  · rintro rfl
    exact ⟨Nat.le_refl _, ordered, by simp⟩

def fieldRanges (field : Text) (bounds : FieldBounds) : Option (List RangePart) :=
  (field.splitOn ',').mapM (parseRangePart · bounds)

def rangesField (ranges : List RangePart) : Reference.Field :=
  { values := (ranges.map RangePart.field).flatMap Reference.Field.values
    star := (ranges.map RangePart.field).any Reference.Field.star }

structure SameField (before after : Reference.Field) : Prop where
  values : ∀ value, value ∈ before.values ↔ value ∈ after.values
  star : before.star = after.star

theorem SameField.refl (field : Reference.Field) : SameField field field :=
  ⟨fun _ => Iff.rfl, rfl⟩

theorem SameField.trans {first second third : Reference.Field} (left : SameField first second)
    (right : SameField second third) : SameField first third :=
  ⟨fun value => (left.values value).trans (right.values value), left.star.trans right.star⟩

theorem rangesField_same {before after : List RangePart}
    (each : List.Forall₂ (fun left right => SameField left.field right.field) before after) :
    SameField (rangesField before) (rangesField after) := by
  induction each with
  | nil => exact SameField.refl _
  | cons head tail ih =>
      constructor
      · intro value
        simp only [rangesField, List.map_cons, List.flatMap_cons, List.mem_append] at ih ⊢
        rw [head.values value, ih.values value]
      · have rest := ih.star
        simp only [rangesField, List.map_cons, List.any_cons] at rest ⊢
        rw [head.star, rest]

def cleanField (field : Text) : Bool :=
  (listElements field).all fun part => cleanText (normalizeRange part)

theorem comma_notMem_normalizeRange {part : Text} (free : ',' ∉ part) : ',' ∉ normalizeRange part := by
  simp only [normalizeRange]
  split
  · simp only [List.mem_cons, not_or]
    exact ⟨by decide, fun member => free ((List.dropWhile_sublist _).subset member)⟩
  · exact free

theorem splitOn_normalizeField {field : Text} (nonempty : listElements field ≠ []) :
    (normalizeField field).splitOn ',' =
      (listElements field).map fun part => replaceNumerals [] (normalizeRange part) := by
  refine splitOn_join (by simpa using nonempty) ?_
  intro rewritten member
  obtain ⟨part, listed, rfl⟩ := List.mem_map.mp member
  have split := (List.mem_filter.mp listed).1
  exact notMem_replaceNumerals comma_separates
    (comma_notMem_normalizeRange (not_mem_of_mem_splitOn ',' field part split))

theorem parseField_spec (agree : Agree editor server) {field : Text} {ranges : List RangePart}
    (found : fieldRanges (normalizeField field) editor = some ranges) :
    Reference.parseField field server =
      if cleanField field then some (rangesField ranges) else none := by
  by_cases empty : listElements field = []
  · rw [fieldRanges, normalizeField, empty] at found
    exact absurd found (by simp [join, parseRangePart])
  · rw [fieldRanges, splitOn_normalizeField empty, List.mapM_map] at found
    have read := ListLib.mapM_select
      (fun part _ range parsed => @getRange_spec _ _ agree part range parsed) found
    rw [Reference.parseField, read]
    by_cases clean : cleanField field = true
    · rw [if_pos (show (listElements field).all _ = true from clean), if_pos clean]
      rfl
    · rw [if_neg (show ¬(listElements field).all _ = true from clean), if_neg clean]

theorem comma_notMem_fieldValue (agree : Agree editor server) {text : Text} {value : Nat}
    (found : fieldValue text editor = some value) : ',' ∉ text := by
  intro member
  simp only [fieldValue] at found
  split at found
  · rename_i named lookedUp
    have raised : upperLetter ',' ∈ toUpperCase text := List.mem_map_of_mem member
    have upper := List.all_eq_true.mp (agree.letters _ (ListLib.mem_of_lookup lookedUp)).2 _ raised
    exact absurd upper (by decide)
  · split at found
    · rename_i checked
      simp only [isNumeral, Bool.and_eq_true] at checked
      exact absurd (List.all_eq_true.mp checked.2 _ member) (by decide)
    · contradiction

theorem comma_notMem_parseRange (agree : Agree editor server) {rangeStr : Text} {step : Nat}
    {stepped : Bool} {range : RangePart}
    (found : parseRange rangeStr step stepped editor = some range) : ',' ∉ rangeStr := by
  simp only [parseRange] at found
  split at found
  · rename_i star
    rw [star]
    decide
  · intro member
    obtain ⟨part, listed, inside⟩ := @exists_mem_splitOn '-' ',' _ member (by decide)
    split at found
    · rename_i loStr shape
      rw [shape, List.mem_singleton] at listed
      subst listed
      split at found
      · contradiction
      · rename_i lo read
        exact comma_notMem_fieldValue agree read inside
    · rename_i loStr hiStr shape
      split at found
      · rename_i lo hi readLow readHigh
        rw [shape] at listed
        simp only [List.mem_cons, List.not_mem_nil, or_false] at listed
        rcases listed with rfl | rfl
        · exact comma_notMem_fieldValue agree readLow inside
        · exact comma_notMem_fieldValue agree readHigh inside
      · contradiction
    · contradiction

theorem comma_notMem_parseStep {stepStr : Text} {step : Nat}
    (found : parseStep (some stepStr) = some step) : ',' ∉ stepStr := by
  intro member
  simp only [parseStep] at found
  split at found
  · rename_i checked
    simp only [isNumeral, Bool.and_eq_true] at checked
    exact absurd (List.all_eq_true.mp checked.2 _ member) (by decide)
  · contradiction

theorem comma_notMem_parseRangePart (agree : Agree editor server) {part : Text} {range : RangePart}
    (found : parseRangePart part editor = some range) : ',' ∉ part := by
  intro member
  obtain ⟨piece, listed, inside⟩ := @exists_mem_splitOn '/' ',' _ member (by decide)
  simp only [parseRangePart] at found
  split at found
  · contradiction
  · rename_i rangeStr stepStrs shape
    rw [Option.ite_none_left_eq_some] at found
    obtain ⟨short, found⟩ := found
    cases readStep : parseStep stepStrs.head? with
    | none => simp [readStep] at found
    | some step =>
        simp only [readStep] at found
        rw [shape] at listed
        match stepStrs with
        | [] =>
            rw [List.mem_singleton] at listed
            subst listed
            exact comma_notMem_parseRange agree found inside
        | [stepStr] =>
            simp only [List.mem_cons, List.not_mem_nil, or_false] at listed
            rcases listed with rfl | rfl
            · exact comma_notMem_parseRange agree found inside
            · exact comma_notMem_parseStep readStep inside
        | _ :: _ :: _ => simp at short

theorem fieldRanges_single (agree : Agree editor server) {field : Text} {range : RangePart}
    (found : parseRangePart field editor = some range) :
    fieldRanges field editor = some [range] := by
  rw [fieldRanges, List.splitOn_eq_singleton (comma_notMem_parseRangePart agree found)]
  exact ListLib.mapM_cons_of_some found rfl

def wildcardPart (bounds : FieldBounds) : RangePart :=
  { lo := bounds.min, hi := bounds.max, step := 1, wildcard := true, stepped := false,
    explicitRange := false }

theorem parseRangePart_star (bounds : FieldBounds) :
    parseRangePart ['*'] bounds = some (wildcardPart bounds) := by
  have whole : ['*'].splitOn '/' = [['*']] := List.splitOn_eq_singleton (by decide)
  simp [parseRangePart, whole, parseStep, parseRange, wildcardPart]

def plainPart (value : Nat) : RangePart :=
  { lo := value, hi := value, step := 1, wildcard := false, stepped := false,
    explicitRange := false }

theorem fieldValue_decimal (agree : Agree editor server) {value : Nat} (low : editor.min ≤ value)
    (high : value ≤ editor.max) : fieldValue (decimal value) editor = some value := by
  have safe := agree.safe
  have unnamed : editor.names.lookup (toUpperCase (decimal value)) = none := by
    cases found : editor.names.lookup (toUpperCase (decimal value)) with
    | none => rfl
    | some named =>
        obtain ⟨digit, member⟩ := List.exists_mem_of_ne_nil _ (decimal_ne_nil value)
        have other := noDigit_of_named agree found digit member
        rw [decimal_digits member] at other
        contradiction
  have inside : ¬((!isSafeInteger value || decide (value < editor.min) ||
      decide (editor.max < value)) = true) := by
    simp only [isSafeInteger, Bool.or_eq_true, Bool.not_eq_true', decide_eq_false_iff_not,
      decide_eq_true_eq]
    omega
  simp only [fieldValue, unnamed, isNumeral_decimal, if_true, numeral_decimal, if_neg inside]

theorem parseRangePart_decimal (agree : Agree editor server) {value : Nat}
    (low : editor.min ≤ value) (high : value ≤ editor.max) :
    parseRangePart (decimal value) editor = some (plainPart value) := by
  have slash : (decimal value).splitOn '/' = [decimal value] :=
    List.splitOn_eq_singleton (notMem_decimal (by decide))
  have dash : (decimal value).splitOn '-' = [decimal value] :=
    List.splitOn_eq_singleton (notMem_decimal (by decide))
  have notStar : decimal value ≠ ['*'] := by
    intro star
    have member : '*' ∈ decimal value := by simp [star]
    exact absurd (decimal_digits member) (by decide)
  simp [parseRangePart, slash, parseStep, parseRange, notStar, dash,
    fieldValue_decimal agree low high, plainPart]

def collapsePart (bounds : FieldBounds) (rangeSlot : Bool) (part : Text) : Text :=
  match parseRangePart part bounds with
  | none => part
  | some range =>
      if rangeSlot && !range.stepped then part
      else if rangeSlot && range.explicitRange && range.step ≤ bounds.max then part
      else if range.step > range.hi - range.lo then decimal range.lo
      else part

theorem collapsePart_same (agree : Agree editor server) {part : Text} {rangeSlot : Bool}
    {range : RangePart}
    (found : parseRangePart (collapsePart editor rangeSlot part) editor = some range) :
    ∃ original, parseRangePart part editor = some original ∧
      SameField original.field range.field := by
  cases read : parseRangePart part editor with
  | none =>
      simp only [collapsePart, read] at found
      contradiction
  | some original =>
      refine ⟨original, rfl, ?_⟩
      have valid := parseRangePart_valid agree read
      have unchanged : parseRangePart part editor = some range →
          SameField original.field range.field := by
        intro same
        rw [read, Option.some.injEq] at same
        rw [same]
        exact SameField.refl _
      simp only [collapsePart, read] at found
      split at found
      · exact unchanged found
      · split at found
        · exact unchanged found
        · split at found
          · rename_i wide
            have low := valid.low
            have high := valid.high
            have ordered := valid.ordered
            rw [parseRangePart_decimal agree low (by omega), Option.some.injEq] at found
            subst found
            constructor
            · intro value
              simp only [RangePart.field, plainPart]
              rw [loopValues_wide ordered wide value,
                loopValues_wide (Nat.le_refl _) (by omega) value]
            · have span := agree.span
              simp only [RangePart.field, plainPart, Bool.false_and]
              by_cases wild : original.wildcard = true
              · have whole := valid.whole wild
                have stepped : original.step ≠ 1 := by omega
                simp [stepped]
              · simp [wild]
          · exact unchanged found

theorem comma_notMem_collapsePart {part : Text} {rangeSlot : Bool} (free : ',' ∉ part) :
    ',' ∉ collapsePart editor rangeSlot part := by
  simp only [collapsePart]
  split
  · exact free
  · split
    · exact free
    · split
      · exact free
      · split
        · exact notMem_decimal (by decide)
        · exact free

theorem splitOn_collapseDegenerateRange (field : Text) (rangeSlot : Bool) :
    (collapseDegenerateRange field editor rangeSlot).splitOn ',' =
      (field.splitOn ',').map (collapsePart editor rangeSlot) := by
  refine splitOn_join (by simp [List.splitOn_ne_nil]) ?_
  intro rewritten member
  obtain ⟨part, listed, rfl⟩ := List.mem_map.mp member
  exact comma_notMem_collapsePart (not_mem_of_mem_splitOn ',' field part listed)

def KeepsRanges (bounds : FieldBounds) (rewrite : Text → Text) : Prop :=
  ∀ field ranges, fieldRanges (rewrite field) bounds = some ranges →
    ∃ originals, fieldRanges field bounds = some originals ∧
      SameField (rangesField originals) (rangesField ranges)

theorem KeepsRanges.comp {first second : Text → Text} (outer : KeepsRanges editor second)
    (inner : KeepsRanges editor first) : KeepsRanges editor fun field => second (first field) := by
  intro field ranges found
  obtain ⟨middle, read, same⟩ := outer _ _ found
  obtain ⟨originals, readFirst, sameFirst⟩ := inner _ _ read
  exact ⟨originals, readFirst, sameFirst.trans same⟩

theorem collapseDegenerateRange_keeps (agree : Agree editor server) (rangeSlot : Bool) :
    KeepsRanges editor fun field => collapseDegenerateRange field editor rangeSlot := by
  intro field ranges found
  rw [fieldRanges, splitOn_collapseDegenerateRange, List.mapM_map] at found
  obtain ⟨originals, read, each⟩ := ListLib.mapM_relate
    (fun part _ range parsed => @collapsePart_same _ _ agree part rangeSlot range parsed) found
  exact ⟨originals, read, rangesField_same each⟩

theorem mem_rangesField {ranges : List RangePart} {value : Nat} :
    value ∈ (rangesField ranges).values ↔ ∃ range ∈ ranges, value ∈ range.field.values := by
  simp [rangesField]

theorem RangePart.Valid.mem_field {range : RangePart} (valid : range.Valid editor) {value : Nat} :
    value ∈ range.field.values ↔
      range.lo ≤ value ∧ value ≤ range.hi ∧ range.step ∣ value - range.lo :=
  mem_loopValues valid.positive

theorem mem_wildcardPart {value : Nat} :
    value ∈ (wildcardPart editor).field.values ↔ editor.min ≤ value ∧ value ≤ editor.max := by
  simp only [RangePart.field, wildcardPart]
  rw [mem_loopValues (Nat.le_refl 1)]
  simp

theorem collapseWildcardList_keeps (agree : Agree editor server) :
    KeepsRanges editor fun field => collapseWildcardList field editor := by
  intro field ranges found
  simp only [collapseWildcardList] at found
  split at found
  · exact ⟨ranges, found, SameField.refl _⟩
  · split at found
    · exact ⟨ranges, found, SameField.refl _⟩
    · rename_i originals read
      split at found
      · rename_i starred
        refine ⟨originals, read, ?_⟩
        rw [fieldRanges_single agree (parseRangePart_star editor), Option.some.injEq] at found
        subst found
        obtain ⟨wild, listed, isStar⟩ := List.any_eq_true.mp starred
        have isStar : wild.wildcard = true ∧ wild.step = 1 := by simpa using isStar
        have validAll : ∀ range ∈ originals, range.Valid editor := by
          intro range member
          obtain ⟨part, -, parsed⟩ := ListLib.mem_of_mapM read member
          exact parseRangePart_valid agree parsed
        have whole := (validAll wild listed).whole isStar.1
        constructor
        · intro value
          simp only [mem_rangesField, List.mem_singleton, exists_eq_left, mem_wildcardPart]
          constructor
          · rintro ⟨range, member, selected⟩
            have valid := validAll range member
            have low := valid.low
            have high := valid.high
            have bounds := valid.mem_field.mp selected
            omega
          · rintro inside
            refine ⟨wild, listed, (validAll wild listed).mem_field.mpr ?_⟩
            rw [whole.1, whole.2, isStar.2]
            exact ⟨inside.1, inside.2, Nat.one_dvd _⟩
        · have starTrue : (rangesField originals).star = true := by
            simp only [rangesField, List.any_map, List.any_eq_true]
            exact ⟨wild, listed, by simp [RangePart.field, isStar]⟩
          rw [starTrue]
          rfl
      · exact ⟨ranges, found, SameField.refl _⟩

structure ReadAs (field : Text) (server : Reference.Bounds) (ranges : List RangePart) : Prop where
  clean : cleanField field = true → ∃ read, Reference.parseField field server = some read ∧
    SameField read (rangesField ranges)
  unclean : cleanField field = false → Reference.parseField field server = none

theorem readAs_of_keeps (agree : Agree editor server) {rewrite : Text → Text}
    (keeps : KeepsRanges editor rewrite) {field : Text} {ranges : List RangePart}
    (found : fieldRanges (rewrite (normalizeField field)) editor = some ranges) :
    ReadAs field server ranges := by
  obtain ⟨originals, read, same⟩ := keeps _ _ found
  have spec := parseField_spec agree read
  constructor
  · intro clean
    rw [if_pos clean] at spec
    exact ⟨_, spec, same⟩
  · intro unclean
    rw [spec, unclean]
    rfl

end Agreeing

end MulticaOS.Cron
