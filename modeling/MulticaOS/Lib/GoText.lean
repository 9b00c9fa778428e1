import Mathlib

/-!
Text as Go's standard library reads it: white space and control characters, trimming,
and the layout `2006-01-02` of package `time`.
-/

namespace GoLib

def isSpace (char : Char) : Bool :=
  let code := char.toNat
  (9 ≤ code && code ≤ 13) || code == 0x20 || code == 0x85 || code == 0xA0 || code == 0x1680 ||
    (0x2000 ≤ code && code ≤ 0x200A) || code == 0x2028 || code == 0x2029 || code == 0x202F ||
    code == 0x205F || code == 0x3000

def isControl (char : Char) : Bool :=
  let code := char.toNat
  code ≤ 0x1F || (0x7F ≤ code && code ≤ 0x9F)

/-- `unicode.ToLower` where the lower case is an ASCII letter; every other letter stays as it is. -/
def lowerRune (char : Char) : Char :=
  if 'A' ≤ char ∧ char ≤ 'Z' then Char.ofNat (char.toNat + 32)
  else if char.toNat = 0x130 then 'i'
  else if char.toNat = 0x212A then 'k'
  else char

def contains (text part : List Char) : Bool := decide (part <:+: text)

def trimSpace (text : String) : String :=
  String.ofList ((text.toList.dropWhile isSpace).rdropWhile isSpace)

theorem trimSpace_sublist (text : String) : (trimSpace text).toList.Sublist text.toList := by
  rw [trimSpace, String.toList_ofList]
  exact (List.rdropWhile_prefix isSpace _).sublist.trans (List.dropWhile_sublist isSpace)

theorem trimSpace_trimSpace (text : String) : trimSpace (trimSpace text) = trimSpace text := by
  rw [trimSpace, trimSpace, String.toList_ofList]
  congr 1
  generalize shorter : text.toList.dropWhile isSpace = rest
  have first : ∀ nonempty : 0 < rest.length, ¬ isSpace (rest.get ⟨0, nonempty⟩) = true := by
    subst shorter
    exact fun nonempty => List.dropWhile_get_zero_not isSpace text.toList nonempty
  have same : (rest.rdropWhile isSpace).dropWhile isSpace = rest.rdropWhile isSpace := by
    rw [List.dropWhile_eq_self_iff]
    intro nonempty
    have inRest := (List.rdropWhile_prefix isSpace rest).getElem nonempty
    have kept := first (Nat.lt_of_lt_of_le nonempty (List.rdropWhile_prefix isSpace rest).length_le)
    rw [List.get_eq_getElem] at kept
    rwa [inRest]
  rw [same, List.rdropWhile_idempotent]

theorem trimSpace_of_free {text : String} (free : ∀ char ∈ text.toList, isSpace char = false) :
    trimSpace text = text := by
  have front : text.toList.dropWhile isSpace = text.toList := by
    rw [List.dropWhile_eq_self_iff]
    intro nonempty isFirst
    rw [free _ (List.getElem_mem nonempty)] at isFirst
    contradiction
  have back : text.toList.rdropWhile isSpace = text.toList := by
    rw [List.rdropWhile_eq_self_iff]
    intro nonempty isLast
    rw [free _ (List.getLast_mem nonempty)] at isLast
    contradiction
  rw [trimSpace, front, back, String.ofList_toList]

def cutPrefix (lead text : String) : Option String :=
  if lead.toList <+: text.toList then some (String.ofList (text.toList.drop lead.toList.length)) else none

def cutChars (separator : List Char) : List Char → Option (List Char × List Char)
  | [] => none
  | char :: rest =>
      if separator <+: char :: rest then some ([], (char :: rest).drop separator.length)
      else (cutChars separator rest).map fun parts => (char :: parts.1, parts.2)

def cut (separator text : String) : Option (String × String) :=
  (cutChars separator.toList text.toList).map fun parts => (String.ofList parts.1, String.ofList parts.2)

theorem cutPrefix_append (lead text : String) : cutPrefix lead (lead ++ text) = some text := by
  rw [cutPrefix, String.toList_append, if_pos (List.prefix_append _ _), List.drop_left,
    String.ofList_toList]

theorem cutChars_append {first : Char} {others front back : List Char} (free : first ∉ front) :
    cutChars (first :: others) (front ++ (first :: others) ++ back) = some (front, back) := by
  induction front with
  | nil =>
      rw [List.nil_append, List.cons_append, cutChars, if_pos]
      · rw [← List.cons_append, List.drop_left]
      · exact List.prefix_append (first :: others) back
  | cons char rest ih =>
      rw [List.cons_append, List.cons_append, cutChars, if_neg, ih fun member => free (by simp [member])]
      · rfl
      · intro found
        obtain ⟨same, -⟩ := List.cons_prefix_cons.mp found
        exact free (by simp [same])

theorem cut_append {separator front back : String} {first : Char} {others : List Char}
    (shape : separator.toList = first :: others) (free : first ∉ front.toList) :
    cut separator (front ++ separator ++ back) = some (front, back) := by
  rw [cut, String.toList_append, String.toList_append, shape, cutChars_append free, Option.map_some,
    String.ofList_toList, String.ofList_toList]

theorem eq_of_cutChars {separator text front back : List Char}
    (found : cutChars separator text = some (front, back)) : text = front ++ separator ++ back := by
  induction text generalizing front with
  | nil => contradiction
  | cons char rest ih =>
      rw [cutChars] at found
      split at found
      · rename_i isLead
        cases found
        rw [List.nil_append]
        exact (List.prefix_iff_eq_append.mp isLead).symm
      · obtain ⟨⟨shorter, others⟩, later, same⟩ := Option.map_eq_some_iff.mp found
        cases same
        rw [List.cons_append, List.cons_append, ← ih later]

theorem eq_of_cut {separator text front back : String}
    (found : cut separator text = some (front, back)) : text = front ++ separator ++ back := by
  obtain ⟨⟨frontChars, backChars⟩, shape, same⟩ := Option.map_eq_some_iff.mp found
  cases same
  apply String.toList_inj.mp
  rw [String.toList_append, String.toList_append, String.toList_ofList, String.toList_ofList]
  exact eq_of_cutChars shape

def parseInt (text : String) : Option Int :=
  let (negative, digits) := match text.toList with
    | '-' :: digits => (true, digits)
    | '+' :: digits => (false, digits)
    | digits => (false, digits)
  if digits ≠ [] ∧ digits.all Char.isDigit then
    let value : Nat := Nat.ofDigitChars 10 digits 0
    if negative then if value ≤ 2 ^ 63 then some (-value) else none
    else if value < 2 ^ 63 then some value else none
  else none

def isLeap (year : Nat) : Bool := year % 4 = 0 && (year % 100 ≠ 0 || year % 400 = 0)

def daysIn (year month : Nat) : Nat :=
  if month = 2 then if isLeap year then 29 else 28
  else if month = 4 ∨ month = 6 ∨ month = 9 ∨ month = 11 then 30
  else 31

structure Date where
  year : Nat
  month : Nat
  day : Nat
  deriving DecidableEq

def Date.valid (date : Date) : Bool :=
  1 ≤ date.month && date.month ≤ 12 && 1 ≤ date.day && date.day ≤ daysIn date.year date.month

/-- `time.Parse("2006-01-02", text)`: four, two and two digits. -/
def parseDate (text : String) : Option Date :=
  match text.toList with
  | [y1, y2, y3, y4, '-', m1, m2, '-', d1, d2] =>
      if [y1, y2, y3, y4, m1, m2, d1, d2].all Char.isDigit then
        let date : Date := ⟨Nat.ofDigitChars 10 [y1, y2, y3, y4] 0, Nat.ofDigitChars 10 [m1, m2] 0,
          Nat.ofDigitChars 10 [d1, d2] 0⟩
        if date.valid then some date else none
      else none
  | _ => none

theorem length_of_parseDate {text : String} (parsed : (parseDate text).isSome = true) :
    text.toList.length = 10 := by
  unfold parseDate at parsed
  split at parsed
  · rename_i shape
    rw [shape]
    rfl
  · contradiction

example : parseDate "2024-02-29" = some ⟨2024, 2, 29⟩ := by decide

example : parseDate "2023-02-29" = none := by decide

end GoLib
