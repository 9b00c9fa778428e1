import MulticaOS.Cron.Exclusions
import MulticaOS.Cron.Inverse

/-!
The other direction of reading: what the server reads in a list element the editor reads too,
unless its step is too wide, and the forms that a field of the server has behind the rewrites.
-/

namespace MulticaOS.Cron

open TextLib

theorem replaceNumerals_of_atoi {text : Text} {value : Nat} (read : Reference.atoi text = some value) :
    replaceNumerals [] text = if isSafeInteger value then decimal value else text := by
  rw [Reference.atoi, Option.ite_none_right_eq_some, Option.some.injEq] at read
  obtain ⟨checked, rfl⟩ := read
  simp only [isNumeral, Bool.and_eq_true, decide_eq_true_eq] at checked
  obtain ⟨nonempty, digits⟩ := checked
  have whole : replaceNumerals [] text = canonicalNumeral text := by
    cases text with
    | nil => rfl
    | cons first rest =>
        by_cases plus : first = '+'
        · subst plus
          have tailDigits : rest.all Char.isDigit = true := by simpa [unsigned] using digits
          exact replaceNumerals_digits tailDigits ['+']
        · have sameText : unsigned (first :: rest) = first :: rest := by simp [unsigned, plus]
          rw [sameText] at digits
          exact replaceNumerals_digits digits []
  rw [whole, canonicalNumeral, if_neg nonempty]

theorem canonicalNumeral_ne_nil {pending : Text} (nonempty : pending ≠ []) :
    canonicalNumeral pending ≠ [] := by
  rw [canonicalNumeral]
  split
  · exact nonempty
  · split
    · exact decimal_ne_nil _
    · exact nonempty

theorem replaceNumerals_ne_nil {pending text : Text} (nonempty : pending ≠ [] ∨ text ≠ []) :
    replaceNumerals pending text ≠ [] := by
  induction text generalizing pending with
  | nil => exact canonicalNumeral_ne_nil (by simpa using nonempty)
  | cons first rest ih =>
      rw [replaceNumerals]
      split
      · exact ih (Or.inl (by simp))
      · split
        · exact List.append_ne_nil_of_right_ne_nil _ (ih (Or.inl (by simp)))
        · simp

section Agreeing

variable {editor : FieldBounds} {server : Reference.Bounds}

theorem fieldValue_of_parseIntOrName (agree : Agree editor server) {text : Text} {value : Nat}
    (read : Reference.parseIntOrName text server = some value) (low : editor.min ≤ value)
    (high : value ≤ editor.max) : fieldValue (replaceNumerals [] text) editor = some value := by
  have clean : cleanText text = true := by
    by_contra unclean
    rw [parseIntOrName_unclean agree (by simpa using unclean)] at read
    contradiction
  have texts := clean
  simp only [cleanText, Bool.and_eq_true, decide_eq_true_eq] at texts
  have lowered := lookup_lower texts.1.2 texts.2 fun entry listed => (agree.letters entry listed).2
  rw [← agree.names] at lowered
  rw [Reference.parseIntOrName, lowered] at read
  split at read
  · rename_i named lookedUp
    cases read
    have noDigit := noDigit_of_named agree lookedUp
    rw [replaceNumerals_of_noDigit (Or.inl rfl) noDigit, List.nil_append, fieldValue, lookedUp]
  · have safe : isSafeInteger value = true := by
      have bound := agree.safe
      simp only [isSafeInteger, decide_eq_true_eq]
      omega
    rw [replaceNumerals_of_atoi read, if_pos safe]
    exact fieldValue_decimal agree low high

theorem atoi_of_getStep {stepStr : Text} {step : Nat}
    (read : Reference.getStep (some stepStr) = some step) :
    Reference.atoi stepStr = some step ∧ 1 ≤ step := by
  rw [Reference.getStep] at read
  split at read
  · contradiction
  · rename_i value number
    rw [Option.ite_none_left_eq_some, Option.some.injEq] at read
    obtain ⟨positive, rfl⟩ := read
    exact ⟨number, by omega⟩

def endsPart (low high step : Nat) (star stepped : Bool) (rangeStr : Text) : RangePart :=
  { lo := low, hi := high, step, wildcard := star, stepped,
    explicitRange := !star && decide ('-' ∈ rangeStr) }

theorem parseRange_of_getEnds (agree : Agree editor server) {rangeStr : Text} {low high : Nat}
    {star stepped : Bool} (step : Nat)
    (read : Reference.getEnds rangeStr stepped server = some (low, high, star))
    (inside : editor.min ≤ low ∧ low ≤ high ∧ high ≤ editor.max) :
    parseRange (replaceNumerals [] (normalizedEnds rangeStr)) step stepped editor =
        some (endsPart low high step star stepped rangeStr) ∧
      star = isWildcardEnd ((rangeStr.splitOn '-').headD []) := by
  obtain ⟨first, highs, pieces⟩ := List.exists_cons_of_ne_nil (List.splitOn_ne_nil '-' rangeStr)
  by_cases wild : isWildcardEnd first = true
  · have normalized : normalizedEnds rangeStr = ['*'] := by simp [normalizedEnds, pieces, wild]
    have either : first = ['*'] ∨ first = ['?'] := by simpa [isWildcardEnd] using wild
    simp only [Reference.getEnds, pieces, if_pos either, Option.some.injEq, Prod.mk.injEq] at read
    obtain ⟨rfl, rfl, rfl⟩ := read
    rw [normalized]
    refine ⟨?_, by simp [pieces, wild]⟩
    rw [show replaceNumerals [] ['*'] = ['*'] from rfl, parseRange, if_pos rfl, agree.min, agree.max]
    rfl
  · have normalized : normalizedEnds rangeStr = rangeStr := by simp [normalizedEnds, pieces, wild]
    have neither : ¬(first = ['*'] ∨ first = ['?']) := by simpa [isWildcardEnd] using wild
    have notStar : replaceNumerals [] rangeStr ≠ ['*'] := by
      intro same
      have whole : ['*'].splitOn '-' = [['*']] := List.splitOn_eq_singleton (by decide)
      rw [replaceNumerals_eq_star.mp same, whole] at pieces
      exact neither (Or.inl (List.cons.inj pieces).1.symm)
    rw [normalized, parseRange, if_neg notStar, splitOn_replaceNumerals dash_separates, pieces]
    simp only [Reference.getEnds, pieces, if_neg neither] at read
    rcases highs with _ | ⟨last, _ | ⟨next, rest⟩⟩
    · have dashFree : '-' ∉ rangeStr := by
        rw [← join_splitOn '-' rangeStr, pieces, join_singleton]
        exact not_mem_of_mem_splitOn '-' rangeStr first (by simp [pieces])
      dsimp only at read
      cases number : Reference.parseIntOrName first server with
      | none => simp [number] at read
      | some value =>
          simp only [number, Option.map_some, Option.some.injEq, Prod.mk.injEq] at read
          obtain ⟨rfl, rfl, rfl⟩ := read
          rw [agree.max] at inside ⊢
          have kept := fieldValue_of_parseIntOrName agree number inside.1
            (Nat.le_trans inside.2.1 inside.2.2)
          simp only [List.map_cons, List.map_nil, kept, List.headD_cons]
          rw [if_neg (Nat.not_lt.mpr inside.2.1)]
          simp [endsPart, dashFree, wild]
    · have dashed : '-' ∈ rangeStr := by
        rw [← join_splitOn '-' rangeStr, pieces, join_cons_cons]
        simp
      dsimp only at read
      split at read
      · rename_i lowValue highValue lowRead highRead
        cases read
        have lowKept := fieldValue_of_parseIntOrName agree lowRead inside.1
          (Nat.le_trans inside.2.1 inside.2.2)
        have highKept := fieldValue_of_parseIntOrName agree highRead
          (Nat.le_trans inside.1 inside.2.1) inside.2.2
        simp only [List.map_cons, List.map_nil, lowKept, highKept, List.headD_cons]
        rw [if_neg (Nat.not_lt.mpr inside.2.1)]
        simp [endsPart, dashed, wild]
      · contradiction
    · contradiction

structure Element (editor : FieldBounds) (part ends : Text) (stepStrs : List Text)
    (range : RangePart) : Prop where
  pieces : part.splitOn '/' = ends :: stepStrs
  short : stepStrs.length ≤ 1
  nonempty : ends ≠ []
  step : Reference.getStep stepStrs.head? = some range.step
  stepped : range.stepped = stepStrs.head?.isSome
  wildcard : range.wildcard = isWildcardEnd ((ends.splitOn '-').headD [])
  explicitRange : range.explicitRange = (!range.wildcard && decide ('-' ∈ ends))
  read : parseRange (replaceNumerals [] (normalizedEnds ends)) range.step range.stepped editor =
    some range

theorem element_of_getRange (agree : Agree editor server) {part : Text} {field : Reference.Field}
    (read : Reference.getRange part server = some field) :
    ∃ ends stepStrs range, Element editor part ends stepStrs range ∧ field = range.field := by
  rw [Reference.getRange] at read
  split at read
  · contradiction
  · rename_i ends stepStrs pieces
    rw [Option.ite_none_left_eq_some, not_or, Nat.not_lt] at read
    obtain ⟨⟨short, nonempty⟩, read⟩ := read
    split at read
    · rename_i step low high star stepRead endsRead
      rw [Option.ite_none_left_eq_some, Option.some.injEq, agree.min, agree.max] at read
      obtain ⟨inside, rfl⟩ := read
      obtain ⟨parsed, wild⟩ := parseRange_of_getEnds agree step endsRead (by omega)
      refine ⟨ends, stepStrs, endsPart low high step star stepStrs.head?.isSome ends, ?_, rfl⟩
      exact { pieces, short, nonempty, step := stepRead, stepped := rfl, wildcard := wild,
              explicitRange := rfl, read := parsed }
    · contradiction

theorem Element.parse {part ends : Text} {stepStrs : List Text} {range : RangePart}
    (element : Element editor part ends stepStrs range) :
    parseRangePart (replaceNumerals [] (normalizeRange part)) editor =
      if isSafeInteger range.step then some range else none := by
  obtain ⟨first, others, before, after⟩ := splitOn_normalizeRange part
  rw [element.pieces, List.cons.injEq] at before
  obtain ⟨rfl, rfl⟩ := before
  have nonempty : replaceNumerals [] (normalizedEnds ends) ≠ [] := by
    refine replaceNumerals_ne_nil (Or.inr ?_)
    rw [normalizedEnds]
    split
    · simp
    · exact element.nonempty
  have short := element.short
  have step := element.step
  have read := element.read
  rw [parseRangePart, splitOn_replaceNumerals slash_separates, after]
  simp only [List.map_cons, List.length_map, List.head?_map, Option.isSome_map]
  rw [if_neg (by simp only [nonempty, or_false]; omega), ← element.stepped]
  rcases stepStrs with _ | ⟨stepStr, _ | ⟨next, rest⟩⟩
  · simp only [List.head?_nil, Reference.getStep, Option.some.injEq] at step
    rw [← step, List.head?_nil, Option.map_none, parseStep, if_pos (by decide)]
    rw [← step] at read
    exact read
  · obtain ⟨number, positive⟩ := atoi_of_getStep step
    rw [List.head?_cons, Option.map_some, parseStep, replaceNumerals_of_atoi number]
    by_cases safe : isSafeInteger range.step = true
    · simp only [isNumeral_decimal, numeral_decimal, safe, Bool.not_true, Bool.false_or,
        decide_eq_true_eq, if_neg (Nat.not_lt.mpr positive), if_true, read]
    · rw [if_neg safe]
      rw [Reference.atoi, Option.ite_none_right_eq_some, Option.some.injEq] at number
      by_cases checked : isNumeral stepStr = true
      · have digits : stepStr.all Char.isDigit = true := by
          simp only [isNumeral, Bool.and_eq_true] at checked
          exact checked.2
        rw [unsigned_of_digits digits] at number
        simp [checked, number.2, safe]
      · simp [checked, safe]
  · contradiction

def wideStep (part : Text) : Bool :=
  match part.splitOn '/' with
  | [_, stepStr] => !isSafeInteger (numeral (unsigned stepStr))
  | _ => false

def hasWideStep (field : Text) : Bool := (listElements field).any wideStep

theorem Element.wideStep {part ends : Text} {stepStrs : List Text} {range : RangePart}
    (element : Element editor part ends stepStrs range) :
    wideStep part = !isSafeInteger range.step := by
  have step := element.step
  have short := element.short
  rw [Cron.wideStep, element.pieces]
  match stepStrs with
  | [] =>
      simp only [List.head?_nil, Reference.getStep, Option.some.injEq] at step
      rw [← step]
      rfl
  | [stepStr] =>
      obtain ⟨number, -⟩ := atoi_of_getStep step
      rw [Reference.atoi, Option.ite_none_right_eq_some, Option.some.injEq] at number
      simp only [number.2]

theorem getRange_of_parseField {field : Text} {parsed : Reference.Field}
    (read : Reference.parseField field server = some parsed) :
    ∃ fields, (listElements field).mapM (Reference.getRange · server) = some fields ∧
      parsed = { values := fields.flatMap Reference.Field.values
                 star := fields.any Reference.Field.star } := by
  rw [Reference.parseField] at read
  split at read
  · contradiction
  · rename_i fields found
    cases read
    exact ⟨fields, found, rfl⟩

theorem fieldRanges_of_parseField (agree : Agree editor server) {field : Text}
    {parsed : Reference.Field} (read : Reference.parseField field server = some parsed)
    (nonempty : listElements field ≠ []) (safe : hasWideStep field = false) :
    ∃ ranges, fieldRanges (normalizeField field) editor = some ranges := by
  obtain ⟨fields, found, -⟩ := getRange_of_parseField read
  rw [fieldRanges, splitOn_normalizeField nonempty, List.mapM_map]
  obtain ⟨ranges, parse, -⟩ := @ListLib.mapM_relate _ _ _ (Reference.getRange · server)
    (fun part => parseRangePart (replaceNumerals [] (normalizeRange part)) editor)
    (fun _ _ => True) _ _ (by
      intro part member partField partRead
      obtain ⟨ends, stepStrs, range, element, -⟩ := element_of_getRange agree partRead
      have narrow := List.any_eq_false.mp safe part member
      rw [element.wideStep] at narrow
      exact ⟨range, by rw [element.parse, if_pos (by simpa using narrow)], trivial⟩) found
  exact ⟨ranges, parse⟩

theorem safe_of_fieldRanges (agree : Agree editor server) {field : Text} {parsed : Reference.Field}
    {ranges : List RangePart} (read : Reference.parseField field server = some parsed)
    (found : fieldRanges (normalizeField field) editor = some ranges) :
    hasWideStep field = false := by
  obtain ⟨fields, accepted, -⟩ := getRange_of_parseField read
  rw [hasWideStep, List.any_eq_false]
  intro part member
  have nonempty : listElements field ≠ [] := List.ne_nil_of_mem member
  rw [fieldRanges, splitOn_normalizeField nonempty, List.mapM_map] at found
  obtain ⟨partField, partRead⟩ := ListLib.some_of_mapM accepted member
  obtain ⟨ends, stepStrs, range, element, -⟩ := element_of_getRange agree partRead
  obtain ⟨other, parse⟩ := ListLib.some_of_mapM found member
  rw [Function.comp_apply, element.parse, Option.ite_none_right_eq_some] at parse
  rw [element.wideStep, parse.1]
  simp

theorem eq_rangesField (agree : Agree editor server) {field : Text} {parsed : Reference.Field}
    {ranges : List RangePart} (read : Reference.parseField field server = some parsed)
    (found : fieldRanges (normalizeField field) editor = some ranges) : parsed = rangesField ranges := by
  rw [parseField_spec agree found, Option.ite_none_right_eq_some, Option.some.injEq] at read
  exact read.2.symm

inductive FieldShape (editor : FieldBounds) (field : Text) (parsed : Reference.Field) : Prop where
  | single (part ends : Text) (stepStrs : List Text) (range : RangePart)
      (listed : listElements field = [part]) (element : Element editor part ends stepStrs range)
      (safe : isSafeInteger range.step = true) (same : parsed = range.field)
  | everything (many : 1 < (listElements field).length) (star : parsed.star = true)
      (rewritten : collapseWildcardList (normalizeField field) editor = ['*'])
  | list (many : 1 < (listElements field).length) (star : parsed.star = false)
      (rewritten : collapseWildcardList (normalizeField field) editor = normalizeField field)

theorem fieldShape (agree : Agree editor server) {field : Text} {parsed : Reference.Field}
    (read : Reference.parseField field server = some parsed) (nonempty : listElements field ≠ [])
    (safe : hasWideStep field = false) : FieldShape editor field parsed := by
  obtain ⟨ranges, found⟩ := fieldRanges_of_parseField agree read nonempty safe
  have same := eq_rangesField agree read found
  cases listed : listElements field with
  | nil => exact absurd listed nonempty
  | cons part others =>
      cases others with
      | nil =>
          obtain ⟨fields, accepted, parsedSame⟩ := getRange_of_parseField read
          rw [listed] at accepted
          obtain ⟨partField, rest, partRead, restRead, rfl⟩ := ListLib.mapM_cons_some accepted
          cases restRead
          obtain ⟨ends, stepStrs, range, element, rfl⟩ := element_of_getRange agree partRead
          refine .single part ends stepStrs range listed element ?_ ?_
          · have narrow := List.any_eq_false.mp safe part (by simp [listed])
            rw [element.wideStep] at narrow
            simpa using narrow
          · simp [parsedSame]
      | cons second more =>
          have many : 1 < (listElements field).length := by simp [listed]
          have pieces := splitOn_normalizeField nonempty
          have long : ¬((normalizeField field).splitOn ',').length < 2 := by
            rw [pieces, List.length_map]
            omega
          rw [fieldRanges] at found
          have starSame : (ranges.any fun range => range.wildcard && range.step = 1) = parsed.star := by
            rw [same, rangesField, List.any_map]
            rfl
          cases star : parsed.star with
          | true =>
              refine .everything many star ?_
              simp only [collapseWildcardList, long, if_false, found, starSame, star, if_true]
          | false =>
              refine .list many star ?_
              simp only [collapseWildcardList, long, if_false, found, starSame, star, Bool.false_eq_true]

theorem normalizeField_single {field part : Text} (listed : listElements field = [part]) :
    normalizeField field = replaceNumerals [] (normalizeRange part) := by
  rw [normalizeField, listed, List.map_singleton, join_singleton]

theorem rewrite_single (agree : Agree editor server) {field part : Text} {range : RangePart}
    (listed : listElements field = [part])
    (parse : parseRangePart (replaceNumerals [] (normalizeRange part)) editor = some range)
    (rangeSlot : Bool) :
    collapseDegenerateRange (collapseWildcardList (normalizeField field) editor) editor rangeSlot =
      collapsePart editor rangeSlot (replaceNumerals [] (normalizeRange part)) := by
  have free := comma_notMem_parseRangePart agree parse
  rw [normalizeField_single listed, collapseWildcardList_single free, collapseDegenerateRange_single free]

theorem collapsePart_narrow {text : Text} {range : RangePart}
    (parse : parseRangePart text editor = some range) (narrow : range.step ≤ range.hi - range.lo)
    (rangeSlot : Bool) : collapsePart editor rangeSlot text = text := by
  simp only [collapsePart, parse, gt_iff_lt, Nat.not_lt.mpr narrow, if_false]
  repeat' split
  all_goals rfl

theorem collapsePart_wide {text : Text} {range : RangePart}
    (parse : parseRangePart text editor = some range) (wide : range.hi - range.lo < range.step) :
    collapsePart editor false text = decimal range.lo := by
  simp [collapsePart, parse, wide]

theorem mem_replaceNumerals_separator {separator : Char} (separates : Separates separator) {text : Text}
    (member : separator ∈ text) : separator ∈ replaceNumerals [] text := by
  obtain ⟨left, right, rfl⟩ := List.append_of_mem member
  rw [replaceNumerals_separator separates]
  simp

theorem Element.slash {part ends : Text} {stepStrs : List Text} {range : RangePart}
    (element : Element editor part ends stepStrs range) : '/' ∈ part ↔ range.stepped = true := by
  rw [element.stepped]
  cases shape : stepStrs with
  | nil =>
      have pieces := element.pieces
      have whole := join_splitOn '/' part
      rw [pieces, shape, join_singleton] at whole
      have free := not_mem_of_mem_splitOn '/' part ends (by simp [pieces])
      rw [whole] at free
      simp [free]
  | cons stepStr others =>
      have whole := join_splitOn '/' part
      rw [element.pieces, shape, join_cons_cons] at whole
      rw [← whole]
      simp

theorem Element.marked {part ends : Text} {stepStrs : List Text} {range : RangePart}
    (element : Element editor part ends stepStrs range) (valid : range.Valid editor)
    (star : range.field.star = false) (narrow : range.step ≤ range.hi - range.lo) :
    '/' ∈ part ∨ '-' ∈ part := by
  cases stepped : range.stepped with
  | true => exact Or.inl (element.slash.mpr stepped)
  | false =>
      have positive := valid.positive
      have single := valid.unstepped stepped
      have bounded : range.wildcard = false := by
        simpa [RangePart.field, single] using star
      cases spelled : range.explicitRange with
      | false =>
          have bare := valid.bare stepped bounded spelled
          omega
      | true =>
          have dashed : '-' ∈ ends := by
            have explicitRange := element.explicitRange
            rw [spelled, bounded] at explicitRange
            simpa using explicitRange.symm
          have listed : ends ∈ part.splitOn '/' := by simp [element.pieces]
          exact Or.inr (mem_of_mem_splitOn listed dashed)

theorem field_single {range : RangePart} (valid : range.Valid editor)
    (wide : range.hi - range.lo < range.step) : range.field.values.dedup = [range.lo] := by
  rw [Reference.dedup_eq_singleton]
  exact loopValues_wide valid.ordered wide

theorem field_many {range : RangePart} (valid : range.Valid editor)
    (narrow : range.step ≤ range.hi - range.lo) (value : Nat) : range.field.values.dedup ≠ [value] := by
  intro single
  rw [Reference.dedup_eq_singleton] at single
  have positive := valid.positive
  have ordered := valid.ordered
  have first : range.lo = value := (single _).mp (valid.mem_field.mpr ⟨Nat.le_refl _, ordered, by simp⟩)
  have second : range.lo + range.step = value :=
    (single _).mp (valid.mem_field.mpr ⟨by omega, by omega, by simp⟩)
  omega

end Agreeing

end MulticaOS.Cron
