import MulticaOS.Cron.Reference

/-!
The reasons for which `cron-grammar.test.ts` lets the editor refuse an expression of the
server: its list `EXCLUSIONS`, judged on what each field means.
-/

namespace MulticaOS.Cron.Reference

open TextLib

def referenceZone (expr : Text) : Option Text :=
  if !hasTimezonePrefix expr then none
  else if ' ' ∉ expr then none
  else
    let name := ((expr.takeWhile (· ≠ ' ')).dropWhile (· ≠ '=')).tail
    some (if name = [] then "UTC".toList else name)

structure serverAccepts (loadLocation : Text → Bool) (expr : Text) (spec : Spec) : Prop where
  read : reference expr = some spec
  tzValid : ∀ zone, referenceZone expr = some zone → loadLocation zone = true

def specBody (expr : Text) : Text := trim ((referenceBody expr).getD [])

def meaningfulField (field : Text) (parsed : Field) : Text :=
  if parsed.star then ['*']
  else
    match parsed.values.dedup with
    | [value] => decimal value
    | _ => join ',' ((listElements field).map (replaceNumerals []))

def meaningfulFields (body : Text) (spec : Spec) : List Text :=
  List.zipWith meaningfulField (splitSpaces (trim body))
    [spec.minute, spec.hour, spec.dom, spec.month, spec.dow]

def wildMark : Text → Text
  | ['?'] => ['*']
  | '?' :: '/' :: rest => '*' :: '/' :: rest
  | text => text

def isShort (text : Text) : Bool := isNumeral text && text.length ≤ 2

/-- The pattern `^(\*|0)\/\d{1,2}$`. -/
def stepsFromZero : Text → Bool
  | '*' :: '/' :: step => isShort step
  | '0' :: '/' :: step => isShort step
  | _ => false

def isShortSpan (text : Text) : Bool :=
  match text.splitOn '-' with
  | [low, high] => isShort low && isShort high
  | _ => false

/-- The patterns `^\d{1,2}-\d{1,2}(\/\d{1,2})?$`, `^\*\/\d{1,2}$` and `^\d{1,2}\/\d{1,2}$`. -/
def isHourRange (text : Text) : Bool :=
  match text.splitOn '/' with
  | [range] => isShortSpan range
  | [range, step] => isShort step && (isShortSpan range || range = ['*'] || isShort range)
  | _ => false

def lastStep (text : Text) : Option Nat :=
  match (text.splitOn '/').reverse with
  | step :: _ :: _ => if isShort step then some (numeral step) else none
  | _ => none

abbrev Exclusion := Spec → Option Text → List Text → Bool

def neverFires : Exclusion := fun spec _ _ =>
  [spec.minute, spec.hour, spec.dom, spec.month, spec.dow].any fun field => field.values = []

def minuteIsList : Exclusion := fun _ _ fields =>
  let minute := wildMark (fields.getD 0 [])
  if minute = ['*'] then false
  else if isShort minute then false
  else !stepsFromZero minute

def hourIsList : Exclusion := fun _ _ fields =>
  let hour := wildMark (fields.getD 1 [])
  !(hour = ['*'] || isShort hour || isHourRange hour)

def twoSteps : Exclusion := fun _ _ fields =>
  let minute := wildMark (fields.getD 0 [])
  let minuteStepped := minute = ['*'] || stepsFromZero minute
  minuteStepped && (lastStep (fields.getD 1 [])).any fun step => step ≠ 1

def domIsNotSingle : Exclusion := fun _ _ fields =>
  !(fields.getD 2 [] = ['*'] || isShort (fields.getD 2 []))

def domBesideDow : Exclusion := fun _ _ fields =>
  fields.getD 2 [] ≠ ['*'] && fields.getD 4 [] ≠ ['*']

def monthIsPinned : Exclusion := fun _ _ fields => fields.getD 3 [] ≠ ['*']

section PickerZone

variable (canonicalPickerZone : Text → Option Text)

def zoneIsNotOffered : Exclusion := fun _ zone _ =>
  zone.any fun name => canonicalPickerZone name = none

def exclusions : List Exclusion :=
  [neverFires, minuteIsList, hourIsList, twoSteps, domIsNotSingle, domBesideDow, monthIsPinned,
    zoneIsNotOffered canonicalPickerZone]

def excluded (expr : Text) (spec : Spec) : Bool :=
  (exclusions canonicalPickerZone).any fun holds =>
    holds spec (referenceZone expr) (meaningfulFields (specBody expr) spec)

end PickerZone

theorem notMem_of_isShort {text : Text} {char : Char} (short : isShort text = true)
    (other : char.isDigit = false) : char ∉ text := by
  intro member
  simp only [isShort, isNumeral, Bool.and_eq_true] at short
  rw [List.all_eq_true.mp short.1.2 _ member] at other
  contradiction

theorem notMem_of_isShortSpan {text : Text} {char : Char} (span : isShortSpan text = true)
    (other : char.isDigit = false) (notDash : char ≠ '-') : char ∉ text := by
  intro member
  obtain ⟨part, listed, inside⟩ := exists_mem_splitOn member notDash
  rw [isShortSpan] at span
  split at span
  · rename_i low high pieces
    rw [Bool.and_eq_true] at span
    simp only [pieces, List.mem_cons, List.not_mem_nil, or_false] at listed
    rcases listed with rfl | rfl
    · exact notMem_of_isShort span.1 other inside
    · exact notMem_of_isShort span.2 other inside
  · contradiction

theorem comma_notMem_of_isHourRange {text : Text} (hour : isHourRange text = true) : ',' ∉ text := by
  intro member
  obtain ⟨part, listed, inside⟩ := @exists_mem_splitOn '/' ',' _ member (by decide)
  rw [isHourRange] at hour
  split at hour
  · rename_i range pieces
    rw [pieces, List.mem_singleton] at listed
    subst listed
    exact notMem_of_isShortSpan hour (by decide) (by decide) inside
  · rename_i range step pieces
    simp only [Bool.and_eq_true, Bool.or_eq_true, decide_eq_true_eq] at hour
    obtain ⟨shortStep, shape⟩ := hour
    simp only [pieces, List.mem_cons, List.not_mem_nil, or_false] at listed
    rcases listed with rfl | rfl
    · rcases shape with (span | star) | short
      · exact notMem_of_isShortSpan span (by decide) (by decide) inside
      · exact absurd (star ▸ inside) (by decide)
      · exact notMem_of_isShort short (by decide) inside
    · exact notMem_of_isShort shortStep (by decide) inside
  · contradiction

theorem wildMark_cases (text : Text) :
    wildMark text = text ∨ (text = ['?'] ∧ wildMark text = ['*']) ∨
      ∃ rest, text = '?' :: '/' :: rest ∧ wildMark text = '*' :: '/' :: rest := by
  unfold wildMark
  split
  · exact Or.inr (Or.inl ⟨rfl, rfl⟩)
  · exact Or.inr (Or.inr ⟨_, rfl, rfl⟩)
  · exact Or.inl rfl

theorem comma_mem_wildMark {text : Text} (member : ',' ∈ text) : ',' ∈ wildMark text := by
  rcases wildMark_cases text with same | ⟨rfl, -⟩ | ⟨rest, rfl, same⟩
  · rwa [same]
  · simp at member
  · rw [same]
    simpa using member

theorem eq_of_wildMark_star {text : Text} (star : wildMark text = ['*']) : text = ['*'] ∨ text = ['?'] := by
  rcases wildMark_cases text with same | ⟨question, -⟩ | ⟨rest, -, same⟩
  · exact Or.inl (same ▸ star)
  · exact Or.inr question
  · rw [same] at star
    simp at star

theorem isShort_of_wildMark {text : Text} (short : isShort (wildMark text) = true) :
    isShort text = true := by
  rcases wildMark_cases text with same | ⟨-, same⟩ | ⟨rest, -, same⟩
  · rwa [same] at short
  · rw [same] at short
    exact absurd short (by decide)
  · have member : '*' ∈ wildMark text := by simp [same]
    exact absurd member (notMem_of_isShort short (by decide))

theorem stepsFromZero_cases {text : Text} (steps : stepsFromZero text = true) :
    ∃ mark step, text = mark :: '/' :: step ∧ isShort step = true ∧ (mark = '*' ∨ mark = '0') := by
  unfold stepsFromZero at steps
  split at steps
  · exact ⟨_, _, rfl, steps, Or.inl rfl⟩
  · exact ⟨_, _, rfl, steps, Or.inr rfl⟩
  · contradiction

theorem stepsFromZero_of_wildMark {text : Text} (steps : stepsFromZero (wildMark text) = true) :
    ∃ mark step, text = mark :: '/' :: step ∧ isShort step = true ∧
      (mark = '*' ∨ mark = '?' ∨ mark = '0') := by
  obtain ⟨mark, step, shape, short, marks⟩ := stepsFromZero_cases steps
  rcases wildMark_cases text with same | ⟨-, same⟩ | ⟨rest, question, same⟩
  · refine ⟨mark, step, same ▸ shape, short, ?_⟩
    rcases marks with star | zero
    · exact Or.inl star
    · exact Or.inr (Or.inr zero)
  · rw [same] at shape
    simp at shape
  · rw [same, List.cons.injEq, List.cons.injEq] at shape
    obtain ⟨-, -, rfl⟩ := shape
    exact ⟨'?', rest, question, short, Or.inr (Or.inl rfl)⟩

theorem isShort_decimal {value : Nat} (small : value < 100) : isShort (decimal value) = true := by
  have all : ∀ value < 100, isShort (decimal value) = true := by decide +kernel
  exact all value small

theorem dedup_eq_singleton {values : List Nat} {value : Nat} :
    values.dedup = [value] ↔ ∀ other, other ∈ values ↔ other = value := by
  constructor
  · intro single other
    rw [← List.mem_dedup, single, List.mem_singleton]
  · intro same
    have perm : values.dedup.Perm [value] := by
      rw [List.perm_ext_iff_of_nodup values.nodup_dedup (List.nodup_singleton value)]
      intro other
      rw [List.mem_dedup, same, List.mem_singleton]
    exact List.perm_singleton.mp perm

theorem meaningfulField_star {field : Text} {parsed : Field} (star : parsed.star = true) :
    meaningfulField field parsed = ['*'] := by
  rw [meaningfulField, if_pos star]

theorem meaningfulField_value {field : Text} {parsed : Field} {value : Nat} (star : parsed.star = false)
    (single : parsed.values.dedup = [value]) : meaningfulField field parsed = decimal value := by
  simp [meaningfulField, star, single]

theorem meaningfulField_text {field : Text} {parsed : Field} (star : parsed.star = false)
    (many : ∀ value, parsed.values.dedup ≠ [value]) :
    meaningfulField field parsed = join ',' ((listElements field).map (replaceNumerals [])) := by
  rw [meaningfulField, if_neg (by simp [star])]
  split
  · rename_i value single
    exact absurd single (many value)
  · rfl

end MulticaOS.Cron.Reference
