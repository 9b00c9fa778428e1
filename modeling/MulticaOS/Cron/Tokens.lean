import MulticaOS.Cron.Reference
import MulticaOS.Lib.Lists

/-!
How the editor's rewriting of numerals changes one token: a range end or a step.
A clean token keeps the value the server reads; an unclean one the server rejects.
-/

namespace MulticaOS.Cron

open TextLib

/-- A digit directly followed by `+`; the flag says that a digit stands before the text. -/
def gluesPlus : Bool → Text → Bool
  | _, [] => false
  | afterDigit, char :: rest => (afterDigit && char == '+') || gluesPlus char.isDigit rest

def cleanText (text : Text) : Bool :=
  !gluesPlus false text && 'ſ' ∉ text && 'ı' ∉ text

structure Separates (separator : Char) : Prop where
  notDigit : separator.isDigit = false
  notPlus : separator ≠ '+'
  notLong : separator ≠ 'ſ'
  notDotless : separator ≠ 'ı'

theorem slash_separates : Separates '/' := by constructor <;> decide
theorem dash_separates : Separates '-' := by constructor <;> decide
theorem comma_separates : Separates ',' := by constructor <;> decide

theorem canonicalNumeral_nil : canonicalNumeral [] = [] := rfl
theorem canonicalNumeral_plus : canonicalNumeral ['+'] = ['+'] := rfl

theorem mem_canonicalNumeral {pending : Text} {char : Char}
    (member : char ∈ canonicalNumeral pending) : char.isDigit = true ∨ char ∈ pending := by
  simp only [canonicalNumeral] at member
  split at member
  · exact Or.inr member
  · split at member
    · exact Or.inl (decimal_digits member)
    · exact Or.inr member

theorem canonicalNumeral_keepsDigit {pending : Text} {char : Char} (member : char ∈ pending)
    (digit : char.isDigit = true) : ∃ kept ∈ canonicalNumeral pending, kept.isDigit = true := by
  simp only [canonicalNumeral]
  split
  · exact ⟨char, member, digit⟩
  · split
    · obtain ⟨first, found⟩ := List.exists_mem_of_ne_nil _
        (decimal_ne_nil (numeral (unsigned pending)))
      exact ⟨first, found, decimal_digits found⟩
    · exact ⟨char, member, digit⟩

theorem mem_replaceNumerals {pending text : Text} {char : Char}
    (member : char ∈ replaceNumerals pending text) :
    char.isDigit = true ∨ char ∈ pending ∨ char ∈ text := by
  induction text generalizing pending with
  | nil =>
      rcases mem_canonicalNumeral member with digit | kept
      · exact Or.inl digit
      · exact Or.inr (Or.inl kept)
  | cons first rest ih =>
      simp only [replaceNumerals] at member
      split at member
      · rcases ih member with digit | kept | later
        · exact Or.inl digit
        · rcases List.mem_append.mp kept with old | new
          · exact Or.inr (Or.inl old)
          · exact Or.inr (Or.inr (by simp [List.mem_singleton.mp new]))
        · exact Or.inr (Or.inr (List.mem_cons_of_mem _ later))
      · split at member
        · rename_i plus
          rcases List.mem_append.mp member with kept | later
          · rcases mem_canonicalNumeral kept with digit | old
            · exact Or.inl digit
            · exact Or.inr (Or.inl old)
          · rcases ih later with digit | new | later
            · exact Or.inl digit
            · exact Or.inr (Or.inr (by simp [List.mem_singleton.mp new, plus]))
            · exact Or.inr (Or.inr (List.mem_cons_of_mem _ later))
        · rcases List.mem_append.mp member with kept | later
          · rcases mem_canonicalNumeral kept with digit | old
            · exact Or.inl digit
            · exact Or.inr (Or.inl old)
          · rcases List.mem_cons.mp later with same | later
            · exact Or.inr (Or.inr (by simp [same]))
            · rcases ih later with digit | new | later
              · exact Or.inl digit
              · exact absurd new (by simp)
              · exact Or.inr (Or.inr (List.mem_cons_of_mem _ later))

theorem replaceNumerals_keepsDigit {pending text : Text} {char : Char}
    (member : char ∈ pending ∨ char ∈ text) (digit : char.isDigit = true) :
    ∃ kept ∈ replaceNumerals pending text, kept.isDigit = true := by
  induction text generalizing pending with
  | nil => exact canonicalNumeral_keepsDigit (by simpa using member) digit
  | cons first rest ih =>
      simp only [replaceNumerals]
      by_cases firstDigit : first.isDigit = true
      · rw [if_pos firstDigit]
        refine ih ?_
        rcases member with old | later
        · exact Or.inl (List.mem_append_left _ old)
        · rcases List.mem_cons.mp later with same | later
          · exact Or.inl (by simp [same])
          · exact Or.inr later
      · rw [if_neg firstDigit]
        rcases member with old | later
        · obtain ⟨kept, found, keptDigit⟩ := canonicalNumeral_keepsDigit old digit
          refine ⟨kept, ?_, keptDigit⟩
          split <;> exact List.mem_append_left _ found
        · have tailMember : char ∈ rest := by
            rcases List.mem_cons.mp later with same | later
            · rw [same] at digit
              contradiction
            · exact later
          split
          · obtain ⟨kept, found, keptDigit⟩ := @ih ['+'] (Or.inr tailMember)
            exact ⟨kept, List.mem_append_right _ found, keptDigit⟩
          · obtain ⟨kept, found, keptDigit⟩ := @ih [] (Or.inr tailMember)
            exact ⟨kept, List.mem_append_right _ (List.mem_cons_of_mem _ found), keptDigit⟩

theorem replaceNumerals_of_noDigit {pending text : Text} (start : pending = [] ∨ pending = ['+'])
    (noDigit : ∀ char ∈ text, char.isDigit = false) :
    replaceNumerals pending text = pending ++ text := by
  have unchanged : canonicalNumeral pending = pending := by
    rcases start with rfl | rfl <;> rfl
  induction text generalizing pending with
  | nil => simp [replaceNumerals, unchanged]
  | cons first rest ih =>
      have firstOther := noDigit first (by simp)
      have later : ∀ char ∈ rest, char.isDigit = false :=
        fun char member => noDigit char (by simp [member])
      simp only [replaceNumerals, firstOther, Bool.false_eq_true, if_false, unchanged]
      split
      · rename_i plus
        rw [ih (Or.inr rfl) later rfl, plus]
        simp
      · rw [ih (Or.inl rfl) later rfl]
        simp

theorem replaceNumerals_separator {separator : Char} (separates : Separates separator)
    (pending left right : Text) :
    replaceNumerals pending (left ++ separator :: right) =
      replaceNumerals pending left ++ separator :: replaceNumerals [] right := by
  induction left generalizing pending with
  | nil => simp [replaceNumerals, separates.notDigit, separates.notPlus]
  | cons first rest ih =>
      simp only [List.cons_append, replaceNumerals]
      split
      · exact ih _
      · split
        · rw [ih]
          simp
        · rw [ih]
          simp

theorem gluesPlus_separator {separator : Char} (separates : Separates separator)
    (afterDigit : Bool) (left right : Text) :
    gluesPlus afterDigit (left ++ separator :: right) =
      (gluesPlus afterDigit left || gluesPlus false right) := by
  induction left generalizing afterDigit with
  | nil => simp [gluesPlus, separates.notDigit, separates.notPlus]
  | cons first rest ih =>
      simp only [List.cons_append, gluesPlus, ih, Bool.or_assoc]

theorem cleanText_separator {separator : Char} (separates : Separates separator)
    (left right : Text) :
    cleanText (left ++ separator :: right) = (cleanText left && cleanText right) := by
  have long : 'ſ' ≠ separator := separates.notLong.symm
  have dotless : 'ı' ≠ separator := separates.notDotless.symm
  simp only [cleanText, gluesPlus_separator separates, List.mem_append, List.mem_cons, long,
    dotless, false_or, not_or, Bool.decide_and, Bool.not_or]
  ac_rfl

theorem replaceNumerals_join {separator : Char} (separates : Separates separator)
    (parts : List Text) :
    replaceNumerals [] (join separator parts) = join separator (parts.map (replaceNumerals [])) := by
  induction parts with
  | nil => rfl
  | cons first rest ih =>
      cases rest with
      | nil => simp [join_singleton]
      | cons second others =>
          simp only [List.map_cons] at ih ⊢
          rw [join_cons_cons, join_cons_cons, replaceNumerals_separator separates, ih]

theorem cleanText_join {separator : Char} (separates : Separates separator) (parts : List Text) :
    cleanText (join separator parts) = parts.all cleanText := by
  induction parts with
  | nil => rfl
  | cons first rest ih =>
      cases rest with
      | nil => simp [join_singleton]
      | cons second others =>
          rw [join_cons_cons, cleanText_separator separates, ih]
          rfl

theorem notMem_replaceNumerals {separator : Char} (separates : Separates separator) {text : Text}
    (free : separator ∉ text) : separator ∉ replaceNumerals [] text := by
  intro member
  rcases mem_replaceNumerals member with digit | old | present
  · rw [separates.notDigit] at digit
    contradiction
  · exact absurd old (by simp)
  · exact free present

theorem splitOn_replaceNumerals {separator : Char} (separates : Separates separator)
    (text : Text) :
    (replaceNumerals [] text).splitOn separator =
      (text.splitOn separator).map (replaceNumerals []) := by
  conv_lhs => rw [← join_splitOn separator text, replaceNumerals_join separates]
  refine splitOn_join ?_ ?_
  · simp [List.splitOn_ne_nil]
  · intro part member
    obtain ⟨piece, found, rfl⟩ := List.mem_map.mp member
    exact notMem_replaceNumerals separates (not_mem_of_mem_splitOn separator text piece found)

theorem cleanText_splitOn {separator : Char} (separates : Separates separator) (text : Text) :
    cleanText text = (text.splitOn separator).all cleanText := by
  rw [← cleanText_join separates, join_splitOn]

def isPending (text : Text) : Bool := (unsigned text).all Char.isDigit

theorem isPending_digit {pending : Text} {char : Char} (shape : isPending pending = true)
    (digit : char.isDigit = true) : isPending (pending ++ [char]) = true := by
  have notPlus : char ≠ '+' := by
    intro equal
    rw [equal] at digit
    contradiction
  cases pending with
  | nil => simpa [isPending, unsigned, notPlus] using digit
  | cons first rest =>
      by_cases plus : first = '+'
      · simp_all [isPending, unsigned]
      · simp_all [isPending, unsigned]

def endsInDigit (pending : Text) : Bool := pending ≠ [] && pending ≠ ['+']

theorem endsInDigit_digit {pending : Text} {char : Char} (digit : char.isDigit = true) :
    endsInDigit (pending ++ [char]) = true := by
  have notPlus : char ≠ '+' := by
    intro equal
    rw [equal] at digit
    contradiction
  cases pending with
  | nil => simp [endsInDigit, notPlus]
  | cons first rest => simp [endsInDigit]

theorem replaceNumerals_of_digits {pending text : Text} (shape : isPending pending = true)
    (unglued : gluesPlus (endsInDigit pending) text = false)
    (digits : ∀ char ∈ replaceNumerals pending text, char.isDigit = true) :
    isPending (pending ++ text) = true ∧
      replaceNumerals pending text = canonicalNumeral (pending ++ text) := by
  induction text generalizing pending with
  | nil => simpa [replaceNumerals] using shape
  | cons first rest ih =>
      simp only [replaceNumerals] at digits ⊢
      simp only [gluesPlus, Bool.or_eq_false_iff] at unglued
      by_cases firstDigit : first.isDigit = true
      · simp only [firstDigit, if_true] at digits unglued ⊢
        have step := ih (isPending_digit shape firstDigit)
          (by rw [endsInDigit_digit firstDigit]; exact unglued.2) digits
        simpa using step
      · simp only [firstDigit] at digits unglued ⊢
        by_cases plus : first = '+'
        · subst plus
          simp only [if_true] at digits ⊢
          have fresh : pending = [] := by
            by_contra nonempty
            have lone : pending = ['+'] := by
              simpa [endsInDigit, nonempty] using unglued.1
            have plusDigit := digits '+' (by simp [lone, canonicalNumeral_plus])
            exact absurd plusDigit (by decide)
          subst fresh
          exact ih (by decide) (by simpa [endsInDigit] using unglued.2)
            (fun char member => digits char (List.mem_append_right _ member))
        · simp only [plus, if_false] at digits
          exact absurd (digits first (by simp)) firstDigit

theorem gluesPlus_digits {text : Text} (digits : text.all Char.isDigit = true) (flag : Bool) :
    gluesPlus flag text = false := by
  induction text generalizing flag with
  | nil => rfl
  | cons first rest ih =>
      simp only [List.all_cons, Bool.and_eq_true] at digits
      have notPlus : first ≠ '+' := by
        intro equal
        rw [equal] at digits
        exact absurd digits.1 (by decide)
      simp [gluesPlus, notPlus, ih digits.2]

theorem cleanText_digits {text : Text} (digits : text.all Char.isDigit = true) :
    cleanText text = true := by
  have long : 'ſ' ∉ text := fun member =>
    absurd (List.all_eq_true.mp digits _ member) (by decide)
  have dotless : 'ı' ∉ text := fun member =>
    absurd (List.all_eq_true.mp digits _ member) (by decide)
  simp [cleanText, gluesPlus_digits digits, long, dotless]

theorem cleanText_of_unsigned {text : Text} (clean : cleanText (unsigned text) = true) :
    cleanText text = true := by
  cases text with
  | nil => rfl
  | cons first rest =>
      by_cases plus : first = '+'
      · subst plus
        simp only [unsigned, List.head?_cons, if_true, List.tail_cons] at clean
        have signed := cleanText_separator slash_separates [] rest
        simp_all [cleanText, gluesPlus]
      · simpa [unsigned, plus] using clean

theorem atoi_unclean {text : Text} (unclean : cleanText text = false) :
    Reference.atoi text = none := by
  simp only [Reference.atoi]
  split
  · rename_i checked
    simp only [isNumeral, Bool.and_eq_true] at checked
    rw [cleanText_of_unsigned (cleanText_digits checked.2)] at unclean
    contradiction
  · rfl

theorem unsigned_of_digits {text : Text} (digits : text.all Char.isDigit = true) :
    unsigned text = text := by
  cases text with
  | nil => rfl
  | cons first rest =>
      simp only [List.all_cons, Bool.and_eq_true] at digits
      have notPlus : first ≠ '+' := by
        intro equal
        rw [equal] at digits
        exact absurd digits.1 (by decide)
      simp [unsigned, notPlus]

theorem numeral_canonicalNumeral {text : Text} (shape : isPending text = true)
    (checked : isNumeral (canonicalNumeral text) = true) :
    isNumeral (unsigned text) = true ∧
      numeral (canonicalNumeral text) = numeral (unsigned text) := by
  by_cases bare : unsigned text = []
  · simp only [canonicalNumeral, if_pos bare, isNumeral, Bool.and_eq_true,
      decide_eq_true_eq] at checked
    rw [unsigned_of_digits checked.2] at bare
    exact absurd bare checked.1
  · have unsignedNumeral : isNumeral (unsigned text) = true := by
      simp only [isNumeral, Bool.and_eq_true, decide_eq_true_eq]
      exact ⟨bare, shape⟩
    refine ⟨unsignedNumeral, ?_⟩
    simp only [canonicalNumeral, if_neg bare] at checked ⊢
    split
    · exact numeral_decimal _
    · rename_i large
      simp only [if_neg large, isNumeral, Bool.and_eq_true] at checked
      rw [unsigned_of_digits checked.2]

theorem atoi_of_replaceNumerals {text : Text} (clean : cleanText text = true)
    (checked : isNumeral (replaceNumerals [] text) = true) :
    Reference.atoi text = some (numeral (replaceNumerals [] text)) := by
  have digits : ∀ char ∈ replaceNumerals [] text, char.isDigit = true := by
    simp only [isNumeral, Bool.and_eq_true] at checked
    exact List.all_eq_true.mp checked.2
  have unglued : gluesPlus (endsInDigit []) text = false := by
    simp only [cleanText, Bool.and_eq_true, Bool.not_eq_true'] at clean
    exact clean.1.1
  have start : isPending [] = true := by decide
  obtain ⟨shape, rewritten⟩ := replaceNumerals_of_digits start unglued digits
  rw [List.nil_append] at shape rewritten
  rw [rewritten] at checked ⊢
  obtain ⟨unsignedNumeral, same⟩ := numeral_canonicalNumeral shape checked
  rw [Reference.atoi, if_pos unsignedNumeral, same]

def isUpper (char : Char) : Bool := 'A' ≤ char && char ≤ 'Z' && char ≠ 'K'

structure Agree (editor : FieldBounds) (server : Reference.Bounds) : Prop where
  min : server.min = editor.min
  max : server.max = editor.max
  span : editor.min < editor.max
  safe : editor.max ≤ 2 ^ 53 - 1
  names : server.names = editor.names.map fun entry => (Reference.toLowerCase entry.1, entry.2)
  letters : ∀ entry ∈ editor.names, entry.1 ≠ [] ∧ entry.1.all isUpper = true
  values : ∀ entry ∈ editor.names, editor.min ≤ entry.2 ∧ entry.2 ≤ editor.max

theorem minute_agree : Agree minuteBounds Reference.minuteBounds := by constructor <;> decide
theorem hour_agree : Agree hourBounds Reference.hourBounds := by constructor <;> decide
theorem dom_agree : Agree domBounds Reference.domBounds := by constructor <;> decide
theorem month_agree : Agree monthBounds Reference.monthBounds := by constructor <;> decide
theorem dow_agree : Agree dowBounds Reference.dowBounds := by constructor <;> decide

theorem toNat_ofNat_small {code : Nat} (small : code < 0xD800) : (Char.ofNat code).toNat = code := by
  rw [Char.ofNat, dif_pos (Or.inl small)]
  rfl

theorem lowerLetter_upper {char : Char} (upper : isUpper char = true) :
    (Reference.lowerLetter char).toNat = char.toNat + 32 := by
  simp only [isUpper, Bool.and_eq_true, decide_eq_true_eq] at upper
  have bound : char.toNat ≤ 90 := upper.1.2
  rw [Reference.lowerLetter, if_pos upper.1, toNat_ofNat_small (by omega)]

theorem upperLetter_eq_iff {char key : Char} (long : char ≠ 'ſ') (dotless : char ≠ 'ı')
    (upper : isUpper key = true) :
    upperLetter char = key ↔ Reference.lowerLetter char = Reference.lowerLetter key := by
  have lowered := lowerLetter_upper upper
  simp only [isUpper, Bool.and_eq_true, decide_eq_true_eq] at upper
  obtain ⟨⟨keyLow, keyHigh⟩, notK⟩ := upper
  have low : 65 ≤ key.toNat := keyLow
  have high : key.toNat ≤ 90 := keyHigh
  have notSeventyFive : key.toNat ≠ 75 := fun equal =>
    notK (Char.toNat_inj.mp (by rw [equal]; rfl))
  rw [← Char.toNat_inj, ← Char.toNat_inj, lowered]
  by_cases small : 97 ≤ char.toNat ∧ char.toNat ≤ 122
  · have raised : (upperLetter char).toNat = char.toNat - 32 := by
      rw [upperLetter, if_pos (show 'a' ≤ char ∧ char ≤ 'z' from small),
        toNat_ofNat_small (by omega)]
    have kept : Reference.lowerLetter char = char := by
      rw [Reference.lowerLetter, if_neg, if_neg (by omega)]
      intro capital
      have bound : char.toNat ≤ 90 := capital.2
      omega
    rw [raised, kept]
    omega
  · have kept : upperLetter char = char := by
      rw [upperLetter, if_neg (show ¬('a' ≤ char ∧ char ≤ 'z') from small), if_neg long,
        if_neg dotless]
    rw [kept]
    by_cases capital : 65 ≤ char.toNat ∧ char.toNat ≤ 90
    · rw [Reference.lowerLetter, if_pos (show 'A' ≤ char ∧ char ≤ 'Z' from capital),
        toNat_ofNat_small (by omega)]
      omega
    · rw [Reference.lowerLetter, if_neg (show ¬('A' ≤ char ∧ char ≤ 'Z') from capital)]
      split
      · rename_i kelvin
        have loweredKelvin : 'k'.toNat = 107 := rfl
        omega
      · omega

theorem toUpperCase_eq_iff {text key : Text} (long : 'ſ' ∉ text) (dotless : 'ı' ∉ text)
    (upper : key.all isUpper = true) :
    toUpperCase text = key ↔ Reference.toLowerCase text = Reference.toLowerCase key := by
  induction text generalizing key with
  | nil =>
      cases key with
      | nil => simp [toUpperCase, Reference.toLowerCase]
      | cons keyFirst keyRest => simp [toUpperCase, Reference.toLowerCase]
  | cons first rest ih =>
      cases key with
      | nil => simp [toUpperCase, Reference.toLowerCase]
      | cons keyFirst keyRest =>
          simp only [List.mem_cons, not_or] at long dotless
          simp only [List.all_cons, Bool.and_eq_true] at upper
          have head := upperLetter_eq_iff (Ne.symm long.1) (Ne.symm dotless.1) upper.1
          have tail := ih long.2 dotless.2 upper.2
          simp only [toUpperCase, Reference.toLowerCase, List.map_cons, List.cons.injEq] at tail ⊢
          rw [head, tail]

theorem lookup_lower {names : List (Text × Nat)} {text : Text} (long : 'ſ' ∉ text)
    (dotless : 'ı' ∉ text) (letters : ∀ entry ∈ names, entry.1.all isUpper = true) :
    (names.map fun entry => (Reference.toLowerCase entry.1, entry.2)).lookup
        (Reference.toLowerCase text) =
      names.lookup (toUpperCase text) := by
  induction names with
  | nil => rfl
  | cons entry rest ih =>
      obtain ⟨key, value⟩ := entry
      have same := toUpperCase_eq_iff long dotless (letters (key, value) (by simp))
      have later := ih (fun entry member => letters entry (by simp [member]))
      simp only [List.map_cons, List.lookup_cons, later]
      by_cases hit : toUpperCase text = key
      · rw [beq_iff_eq.mpr hit, beq_iff_eq.mpr (same.mp hit)]
      · rw [beq_eq_false_iff_ne.mpr hit, beq_eq_false_iff_ne.mpr
          (fun lowered => hit (same.mpr lowered))]

section Agreeing

variable {editor : FieldBounds} {server : Reference.Bounds}

theorem serverLookup_none (agree : Agree editor server) {text : Text} {char : Char}
    (member : char ∈ text) (other : (Reference.lowerLetter char).toNat < 97 ∨
      122 < (Reference.lowerLetter char).toNat) :
    server.names.lookup (Reference.toLowerCase text) = none := by
  cases found : server.names.lookup (Reference.toLowerCase text) with
  | none => rfl
  | some value =>
      have entryMember := ListLib.mem_of_lookup found
      rw [agree.names, List.mem_map] at entryMember
      obtain ⟨entry, listed, same⟩ := entryMember
      have lowered : Reference.lowerLetter char ∈ Reference.toLowerCase entry.1 := by
        rw [(Prod.mk.inj same).1]
        exact List.mem_map_of_mem member
      obtain ⟨letter, keyMember, equal⟩ := List.mem_map.mp lowered
      have upper := List.all_eq_true.mp (agree.letters entry listed).2 letter keyMember
      have code := lowerLetter_upper upper
      simp only [isUpper, Bool.and_eq_true, decide_eq_true_eq] at upper
      have low : 65 ≤ letter.toNat := upper.1.1
      have high : letter.toNat ≤ 90 := upper.1.2
      rw [equal] at code
      omega

theorem lowerLetter_other {char : Char} (other : char.toNat < 65 ∨ 122 < char.toNat)
    (notKelvin : char.toNat ≠ 0x212A) :
    (Reference.lowerLetter char).toNat < 97 ∨ 122 < (Reference.lowerLetter char).toNat := by
  have notCapital : ¬('A' ≤ char ∧ char ≤ 'Z') := by
    intro capital
    have low : 65 ≤ char.toNat := capital.1
    have high : char.toNat ≤ 90 := capital.2
    omega
  rw [Reference.lowerLetter, if_neg notCapital, if_neg notKelvin]
  omega

theorem plus_mem_of_gluesPlus {text : Text} {flag : Bool} (glued : gluesPlus flag text = true) :
    '+' ∈ text := by
  induction text generalizing flag with
  | nil => simp [gluesPlus] at glued
  | cons first rest ih =>
      simp only [gluesPlus, Bool.or_eq_true, Bool.and_eq_true, beq_iff_eq] at glued
      rcases glued with here | later
      · simp [here.2]
      · exact List.mem_cons_of_mem _ (ih later)

theorem parseIntOrName_unclean (agree : Agree editor server) {text : Text}
    (unclean : cleanText text = false) : Reference.parseIntOrName text server = none := by
  have unnamed : server.names.lookup (Reference.toLowerCase text) = none := by
    simp only [cleanText, Bool.and_eq_false_iff, Bool.not_eq_false', decide_eq_false_iff_not,
      not_not] at unclean
    rcases unclean with (glued | long) | dotless
    · exact serverLookup_none agree (plus_mem_of_gluesPlus glued) (by decide)
    · exact serverLookup_none agree long (by decide)
    · exact serverLookup_none agree dotless (by decide)
  rw [Reference.parseIntOrName, unnamed]
  exact atoi_unclean unclean

theorem fieldValue_bounds (agree : Agree editor server) {text : Text} {value : Nat}
    (found : fieldValue text editor = some value) : editor.min ≤ value ∧ value ≤ editor.max := by
  simp only [fieldValue] at found
  split at found
  · rename_i named lookedUp
    rw [Option.some.injEq] at found
    subst found
    exact agree.values _ (ListLib.mem_of_lookup lookedUp)
  · split at found
    · split at found
      · contradiction
      · rename_i inside
        simp only [Bool.or_eq_true, decide_eq_true_eq, not_or, Nat.not_lt] at inside
        rw [Option.some.injEq] at found
        omega
    · contradiction

theorem digit_code {char : Char} (digit : char.isDigit = true) :
    48 ≤ char.toNat ∧ char.toNat ≤ 57 := by
  simp only [Char.isDigit, Bool.and_eq_true, decide_eq_true_eq] at digit
  exact ⟨digit.1, digit.2⟩

theorem mem_of_mem_unsigned {text : Text} {char : Char} (member : char ∈ unsigned text) :
    char ∈ text := by
  rw [unsigned] at member
  split at member
  · exact List.mem_of_mem_tail member
  · exact member

theorem digit_of_atoi {text : Text} {value : Nat} (read : Reference.atoi text = some value) :
    ∃ char ∈ text, char.isDigit = true := by
  simp only [Reference.atoi] at read
  split at read
  · rename_i checked
    simp only [isNumeral, Bool.and_eq_true, decide_eq_true_eq] at checked
    obtain ⟨char, member⟩ := List.exists_mem_of_ne_nil _ checked.1
    exact ⟨char, mem_of_mem_unsigned member, List.all_eq_true.mp checked.2 char member⟩
  · contradiction

theorem noDigit_of_named (agree : Agree editor server) {text : Text} {value : Nat}
    (found : editor.names.lookup (toUpperCase text) = some value) :
    ∀ char ∈ text, char.isDigit = false := by
  intro char member
  by_contra digit
  have code := digit_code (by simpa using digit)
  have entry := ListLib.mem_of_lookup found
  have raised : upperLetter char ∈ toUpperCase text := List.mem_map_of_mem member
  have upper := List.all_eq_true.mp (agree.letters _ entry).2 _ raised
  have kept : upperLetter char = char := by
    rw [upperLetter, if_neg, if_neg, if_neg]
    · rintro rfl
      exact absurd code (by decide)
    · rintro rfl
      exact absurd code (by decide)
    · intro small
      have low : 97 ≤ char.toNat := small.1
      omega
  simp only [kept, isUpper, Bool.and_eq_true, decide_eq_true_eq] at upper
  have low : 65 ≤ char.toNat := upper.1.1
  omega

theorem parseIntOrName_of_fieldValue (agree : Agree editor server) {text : Text} {value : Nat}
    (clean : cleanText text = true)
    (found : fieldValue (replaceNumerals [] text) editor = some value) :
    Reference.parseIntOrName text server = some value := by
  simp only [fieldValue] at found
  split at found
  · rename_i named lookedUp
    rw [Option.some.injEq] at found
    subst found
    have noDigitAfter := noDigit_of_named agree lookedUp
    have noDigit : ∀ char ∈ text, char.isDigit = false := by
      intro char member
      by_contra digit
      obtain ⟨kept, keptMember, keptDigit⟩ :=
        @replaceNumerals_keepsDigit [] text char (Or.inr member) (by simpa using digit)
      rw [noDigitAfter kept keptMember] at keptDigit
      contradiction
    have same := replaceNumerals_of_noDigit (Or.inl rfl) noDigit
    rw [List.nil_append] at same
    rw [same] at lookedUp
    simp only [cleanText, Bool.and_eq_true, decide_eq_true_eq] at clean
    have lowered := lookup_lower clean.1.2 clean.2 fun entry listed => (agree.letters entry listed).2
    rw [Reference.parseIntOrName, agree.names, lowered, lookedUp]
  · split at found
    · rename_i checked
      split at found
      · contradiction
      · have read := atoi_of_replaceNumerals clean checked
        rw [Option.some.injEq] at found
        obtain ⟨char, member, digit⟩ := digit_of_atoi read
        have code := digit_code digit
        have unnamed := serverLookup_none agree member (lowerLetter_other (by omega) (by omega))
        rw [Reference.parseIntOrName, unnamed, ← found]
        exact read
    · contradiction

end Agreeing

end MulticaOS.Cron
