import Mathlib.Data.List.DropRight
import Mathlib.Data.List.Infix

/-!
Text as character lists: trimming, splitting at white space, and the decimal
numerals of natural numbers.  Nothing here knows what the text is about.
-/

namespace TextLib

abbrev Text := List Char

/-- White space as ECMAScript's `trim` and `\s` read it. -/
def isSpace (char : Char) : Bool :=
  let code := char.toNat
  (9 ≤ code && code ≤ 13) || code == 0x20 || code == 0xA0 || code == 0x1680 ||
    (0x2000 ≤ code && code ≤ 0x200A) || code == 0x2028 || code == 0x2029 ||
    code == 0x202F || code == 0x205F || code == 0x3000 || code == 0xFEFF

def trim (text : Text) : Text :=
  (text.dropWhile isSpace).rdropWhile isSpace

def splitSpaces (text : Text) : List Text :=
  if text = [] then [[]] else (text.splitOnP isSpace).filter (· ≠ [])

def join (separator : Char) (parts : List Text) : Text :=
  [separator].intercalate parts

def isNumeral (text : Text) : Bool :=
  text ≠ [] && text.all Char.isDigit

def unsigned (text : Text) : Text := if text.head? = some '+' then text.tail else text

def numeral (text : Text) : Nat := Nat.ofDigitChars 10 text 0

def decimal (value : Nat) : Text := Nat.toDigits 10 value

theorem decimal_digits {value : Nat} {char : Char} (member : char ∈ decimal value) :
    char.isDigit = true :=
  Nat.isDigit_of_mem_toDigits (by decide) (by decide) member

@[simp] theorem decimal_ne_nil (value : Nat) : decimal value ≠ [] := Nat.toDigits_ne_nil

@[simp] theorem isNumeral_decimal (value : Nat) : isNumeral (decimal value) = true := by
  simp only [isNumeral, Bool.and_eq_true, decide_eq_true_eq, List.all_eq_true]
  exact ⟨decimal_ne_nil value, fun _ member => decimal_digits member⟩

@[simp] theorem numeral_decimal (value : Nat) : numeral (decimal value) = value :=
  Nat.ofDigitChars_ten_toDigits

theorem notMem_decimal {value : Nat} {char : Char} (other : char.isDigit = false) :
    char ∉ decimal value := by
  intro member
  rw [decimal_digits member] at other
  contradiction

theorem isSpace_of_isDigit {char : Char} (digit : char.isDigit = true) : isSpace char = false := by
  simp only [Char.isDigit, Bool.and_eq_true, decide_eq_true_eq] at digit
  have lower : 48 ≤ char.toNat := digit.1
  have upper : char.toNat ≤ 57 := digit.2
  simp only [isSpace, Bool.or_eq_false_iff, Bool.and_eq_false_iff, decide_eq_false_iff_not,
    beq_eq_false_iff_ne]
  omega

theorem join_cons_cons (separator : Char) (first second : Text) (rest : List Text) :
    join separator (first :: second :: rest) =
      first ++ separator :: join separator (second :: rest) := by
  simp [join]

theorem join_singleton (separator : Char) (part : Text) : join separator [part] = part := by
  simp [join]

theorem join_splitOn (separator : Char) (text : Text) :
    join separator (text.splitOn separator) = text := by
  rw [join, List.intercalate_splitOn]

theorem splitOn_join {separator : Char} {parts : List Text} (nonempty : parts ≠ [])
    (free : ∀ part ∈ parts, separator ∉ part) :
    (join separator parts).splitOn separator = parts :=
  List.splitOn_intercalate separator free nonempty

theorem not_mem_of_mem_splitOn (separator : Char) (text part : Text)
    (member : part ∈ text.splitOn separator) : separator ∉ part := by
  induction text generalizing part with
  | nil =>
      rw [List.splitOn_nil, List.mem_singleton] at member
      simp [member]
  | cons char rest ih =>
      rw [List.splitOn_cons_eq_if_modifyHead] at member
      split at member
      · rcases List.mem_cons.mp member with same | later
        · simp [same]
        · exact ih part later
      · rename_i different
        cases tail : rest.splitOn separator with
        | nil => exact absurd tail (List.splitOn_ne_nil separator rest)
        | cons first others =>
            rw [tail, List.modifyHead_cons] at member
            rcases List.mem_cons.mp member with same | later
            · subst part
              have clean := ih first (by simp [tail])
              simp only [List.mem_cons, not_or]
              refine ⟨?_, clean⟩
              intro equal
              exact different (by simp [equal])
            · exact ih part (by simp [tail, later])

theorem exists_mem_splitOn {separator char : Char} {text : Text} (member : char ∈ text)
    (other : char ≠ separator) : ∃ part ∈ text.splitOn separator, char ∈ part := by
  induction text with
  | nil => simp at member
  | cons first rest ih =>
      rw [List.splitOn_cons_eq_if_modifyHead]
      obtain ⟨head, tails, shape⟩ := List.exists_cons_of_ne_nil (List.splitOn_ne_nil separator rest)
      split
      · rename_i hit
        rcases List.mem_cons.mp member with same | later
        · exact absurd (by simpa using hit) (same ▸ other)
        · obtain ⟨part, listed, inside⟩ := ih later
          exact ⟨part, List.mem_cons_of_mem _ listed, inside⟩
      · rw [shape, List.modifyHead_cons]
        rcases List.mem_cons.mp member with same | later
        · exact ⟨first :: head, by simp, by simp [same]⟩
        · obtain ⟨part, listed, inside⟩ := ih later
          rw [shape] at listed
          rcases List.mem_cons.mp listed with rfl | listed
          · exact ⟨first :: part, by simp, by simp [inside]⟩
          · exact ⟨part, List.mem_cons_of_mem _ listed, inside⟩

theorem mem_join {separator char : Char} {parts : List Text} {part : Text} (listed : part ∈ parts)
    (inside : char ∈ part) : char ∈ join separator parts := by
  induction parts with
  | nil => contradiction
  | cons first rest ih =>
      cases rest with
      | nil =>
          rw [List.mem_singleton] at listed
          rwa [join_singleton, ← listed]
      | cons second others =>
          rw [join_cons_cons]
          rcases List.mem_cons.mp listed with rfl | later
          · exact List.mem_append_left _ inside
          · exact List.mem_append_right _ (List.mem_cons_of_mem _ (ih later))

theorem mem_of_mem_splitOn {separator char : Char} {text part : Text}
    (listed : part ∈ text.splitOn separator) (inside : char ∈ part) : char ∈ text := by
  rw [← join_splitOn separator text]
  exact mem_join listed inside

theorem splitOn_head (separator : Char) (text : Text) :
    ∃ tails, ∀ head : Text, separator ∉ head →
      (head ++ text.dropWhile (· ≠ separator)).splitOn separator = head :: tails := by
  cases shape : text.dropWhile (· ≠ separator) with
  | nil =>
      refine ⟨[], fun head free => ?_⟩
      rw [List.append_nil]
      exact List.splitOn_eq_singleton free
  | cons first rest =>
      have stopped := List.head?_dropWhile_not (· ≠ separator) text
      rw [shape, List.head?_cons] at stopped
      have same : first = separator := by simpa using stopped
      refine ⟨rest.splitOn separator, fun head free => ?_⟩
      rw [same]
      exact List.splitOn_append_cons_self_of_not_mem free _

theorem notMem_takeWhile (separator : Char) (text : Text) :
    separator ∉ text.takeWhile (· ≠ separator) := by
  intro member
  simpa using List.mem_takeWhile_imp member

def IsWord (text : Text) : Prop := text ≠ [] ∧ ∀ char ∈ text, isSpace char = false

theorem splitSpaces_word {word : Text} (isWord : IsWord word) :
    (word.splitOnP isSpace).filter (· ≠ []) = [word] := by
  rw [List.splitOnP_eq_singleton isWord.2]
  simp [isWord.1]

theorem splitSpaces_join {words : List Text} (nonempty : words ≠ [])
    (each : ∀ word ∈ words, IsWord word) : splitSpaces (join ' ' words) = words := by
  have pieces : ((join ' ' words).splitOnP isSpace).filter (· ≠ []) = words := by
    induction words with
    | nil => exact absurd rfl nonempty
    | cons first rest ih =>
        cases rest with
        | nil =>
            rw [join_singleton]
            exact splitSpaces_word (each first (by simp))
        | cons second others =>
            rw [join_cons_cons, List.splitOnP_append_cons _ _ (by decide), List.filter_append,
              splitSpaces_word (each first (by simp)),
              ih (by simp) (fun word member => each word (List.mem_cons_of_mem _ member))]
            rfl
  rw [splitSpaces, if_neg, pieces]
  intro empty
  rw [empty] at pieces
  simp [List.splitOnP_nil] at pieces
  exact nonempty pieces

theorem trim_eq_self {text : Text} (first : ∀ char, text.head? = some char → isSpace char = false)
    (last : ∀ char, text.getLast? = some char → isSpace char = false) : trim text = text := by
  have leading : text.dropWhile isSpace = text := by
    cases text with
    | nil => rfl
    | cons char rest => simp [first char rfl]
  rw [trim, leading]
  rcases List.eq_nil_or_concat text with rfl | ⟨front, char, rfl⟩
  · rfl
  · rw [List.concat_eq_append, List.rdropWhile_concat_neg]
    simpa using last char (by simp)

theorem trim_trim (text : Text) : trim (trim text) = trim text := by
  refine trim_eq_self (fun char first => ?_) fun char last => ?_
  · obtain ⟨suffix, split⟩ := List.rdropWhile_prefix isSpace (text.dropWhile isSpace)
    have leading := List.head?_dropWhile_not isSpace text
    have nonempty : (text.dropWhile isSpace).rdropWhile isSpace ≠ [] := by
      intro empty
      rw [trim, empty] at first
      contradiction
    rw [← split, List.head?_append_of_ne_nil _ nonempty, ← trim, first] at leading
    simpa using leading
  · have nonempty : trim text ≠ [] := by
      intro empty
      rw [empty] at last
      contradiction
    have kept := List.rdropWhile_last_not isSpace (text.dropWhile isSpace) nonempty
    rw [List.getLast?_eq_some_getLast nonempty, Option.some.injEq] at last
    rw [← last]
    exact Bool.eq_false_iff.mpr kept

theorem join_ne_nil {words : List Text} (nonempty : words ≠ [])
    (each : ∀ word ∈ words, IsWord word) : join ' ' words ≠ [] := by
  cases words with
  | nil => exact absurd rfl nonempty
  | cons first rest =>
      have firstWord := (each first (by simp)).1
      cases rest with
      | nil => rwa [join_singleton]
      | cons second others =>
          rw [join_cons_cons]
          simp

theorem join_head {first : Text} (rest : List Text) (nonempty : first ≠ []) :
    (join ' ' (first :: rest)).head? = first.head? := by
  cases rest with
  | nil => rw [join_singleton]
  | cons second others =>
      rw [join_cons_cons, List.head?_append_of_ne_nil _ nonempty]

theorem join_last {words : List Text} (each : ∀ word ∈ words, IsWord word) {char : Char}
    (last : (join ' ' words).getLast? = some char) : isSpace char = false := by
  induction words with
  | nil => simp [join] at last
  | cons first rest ih =>
      cases rest with
      | nil =>
          rw [join_singleton] at last
          exact (each first (by simp)).2 char (List.mem_of_getLast? last)
      | cons second others =>
          have later : ∀ word ∈ second :: others, IsWord word :=
            fun word member => each word (List.mem_cons_of_mem _ member)
          have nonempty := join_ne_nil (by simp) later
          rw [join_cons_cons, List.getLast?_append_of_ne_nil _ (by simp), List.getLast?_cons,
            List.getLast?_eq_some_getLast nonempty, Option.getD_some] at last
          exact ih later (by rw [List.getLast?_eq_some_getLast nonempty, last])

theorem trim_join {words : List Text} (each : ∀ word ∈ words, IsWord word) :
    trim (join ' ' words) = join ' ' words := by
  refine trim_eq_self ?_ (fun char last => join_last each last)
  intro char first
  cases words with
  | nil => simp [join] at first
  | cons word rest =>
      rw [join_head rest (each word (by simp)).1] at first
      exact (each word (by simp)).2 char (List.mem_of_head? first)

theorem trim_cons_space {char : Char} (space : isSpace char = true) (text : Text) :
    trim (char :: text) = trim text := by
  rw [trim, List.dropWhile_cons_of_pos space, trim]

theorem trim_cons_keep {char : Char} (kept : isSpace char = false) (text : Text) :
    ∃ rest, trim (char :: text) = char :: rest := by
  have leading : (char :: text).dropWhile isSpace = char :: text :=
    List.dropWhile_cons_of_neg (by simp [kept])
  rw [trim, leading]
  obtain ⟨suffix, split⟩ := List.rdropWhile_prefix isSpace (char :: text)
  cases shape : (char :: text).rdropWhile isSpace with
  | nil =>
      have allSpace := List.rdropWhile_eq_nil_iff.mp shape char (by simp)
      rw [kept] at allSpace
      contradiction
  | cons first rest =>
      rw [shape, List.cons_append, List.cons.injEq] at split
      exact ⟨rest, by rw [split.1]⟩

theorem splitOnP_cons_keep {splits : Char → Bool} {char : Char} (kept : splits char = false)
    (text : Text) : ∃ piece tails, (char :: text).splitOnP splits = (char :: piece) :: tails := by
  obtain ⟨piece, tails, shape⟩ := List.exists_cons_of_ne_nil (List.splitOnP_ne_nil splits text)
  refine ⟨piece, tails, ?_⟩
  rw [List.splitOnP_cons_eq_if_modifyHead, if_neg (by simp [kept]), shape, List.modifyHead_cons]

theorem splitOn_cons_keep {separator char : Char} (kept : char ≠ separator) (text : Text) :
    ∃ piece tails, (char :: text).splitOn separator = (char :: piece) :: tails := by
  rw [List.splitOn_eq_splitOnP]
  exact splitOnP_cons_keep (by simpa using kept) text

end TextLib
