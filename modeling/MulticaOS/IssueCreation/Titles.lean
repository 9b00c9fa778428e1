import MulticaOS.Lib.GoText

/-!
Titles as the duplicate guard compares them: `NormalizeTitle` in Go for the new title, and an
expression of the database for the stored ones.
-/

namespace MulticaOS.IssueCreation

abbrev Text := List Char

def fields (text : Text) : List Text := (text.splitOnP GoLib.isSpace).filter (· ≠ [])

def normalizeTitle (title : Text) : Text := ([' '].intercalate (fields title)).map Char.toLower

def posixSpace (char : Char) : Bool := char ∈ [' ', '\t', '\n', '\x0b', '\x0c', '\r']

/-- `regexp_replace(title, '[[:space:]]+', ' ', 'g')`; the flag tells that a run of white space goes on. -/
def collapse (space : Char → Bool) : Bool → Text → Text
  | _, [] => []
  | within, char :: rest =>
      if space char then if within then collapse space true rest else ' ' :: collapse space true rest
      else char :: collapse space false rest

def btrim (text : Text) : Text := (text.dropWhile (· = ' ')).rdropWhile (· = ' ')

/-- `lower(btrim(regexp_replace(title, '[[:space:]]+', ' ', 'g')))`. -/
def storedNormalization (title : Text) : Text := (btrim (collapse posixSpace false title)).map Char.toLower

def Ascii (text : Text) : Prop := ∀ char ∈ text, char.toNat < 128

instance (text : Text) : Decidable (Ascii text) :=
  inferInstanceAs (Decidable (∀ char ∈ text, char.toNat < 128))

theorem posixSpace_eq {char : Char} (ascii : char.toNat < 128) : posixSpace char = GoLib.isSpace char := by
  have small : ∀ code < 128, posixSpace (Char.ofNat code) = GoLib.isSpace (Char.ofNat code) := by decide
  rw [← Char.ofNat_toNat char]
  exact small char.toNat ascii

theorem collapse_congr {left right : Char → Bool} {text : Text}
    (alike : ∀ char ∈ text, left char = right char) (within : Bool) :
    collapse left within text = collapse right within text := by
  induction text generalizing within with
  | nil => rfl
  | cons char rest ih =>
      have later := ih fun other member => alike other (List.mem_cons_of_mem _ member)
      simp only [collapse, alike char List.mem_cons_self, later]

def spaced (words : List Text) : Text := words.flatMap (' ' :: ·)

theorem intercalate_cons (word : Text) (words : List Text) :
    [' '].intercalate (word :: words) = word ++ spaced words := by
  induction words generalizing word with
  | nil => simp [spaced]
  | cons next rest ih => simp [List.intercalate_cons_cons, ih next, spaced]

section Trimming

variable {space : Char → Bool} (blank : space ' ' = true)

include blank

theorem ne_blank {char : Char} (kept : space char = false) : char ≠ ' ' := by
  rintro rfl
  rw [blank] at kept
  contradiction

theorem dropWhile_collapse_true (text : Text) :
    (collapse space true text).dropWhile (· = ' ') = collapse space true text := by
  induction text with
  | nil => rfl
  | cons char rest ih =>
      cases kind : space char with
      | true => simpa [collapse, kind] using ih
      | false => simp [collapse, kind, ne_blank blank kind]

theorem dropWhile_collapse (text : Text) :
    (collapse space false text).dropWhile (· = ' ') = collapse space true text := by
  cases text with
  | nil => rfl
  | cons char rest =>
      cases kind : space char with
      | true => simpa [collapse, kind] using dropWhile_collapse_true blank rest
      | false => simp [collapse, kind, ne_blank blank kind]

omit blank in
theorem rdropWhile_cons {char : Char} (text : Text) :
    (char :: text).rdropWhile (· = ' ') =
      if text.rdropWhile (· = ' ') = [] ∧ char = ' ' then [] else char :: text.rdropWhile (· = ' ') := by
  induction text using List.reverseRecOn with
  | nil => by_cases same : char = ' ' <;> simp [List.rdropWhile, same]
  | append_singleton front last ih =>
      by_cases same : last = ' '
      · rw [← List.cons_append, List.rdropWhile_concat_pos _ _ _ (by simpa using same),
          List.rdropWhile_concat_pos _ _ _ (by simpa using same), ih]
      · rw [← List.cons_append, List.rdropWhile_concat_neg _ _ _ (by simpa using same),
          List.rdropWhile_concat_neg _ _ _ (by simpa using same)]
        simp

theorem rdropWhile_collapse (text : Text) :
    (collapse space true text).rdropWhile (· = ' ') =
        [' '].intercalate ((text.splitOnP space).filter (· ≠ [])) ∧
      ∀ word words, text.splitOnP space = word :: words →
        (collapse space false text).rdropWhile (· = ' ') = word ++ spaced (words.filter (· ≠ [])) := by
  induction text with
  | nil =>
      refine ⟨rfl, fun word words cut => ?_⟩
      rw [List.splitOnP_nil, List.cons.injEq] at cut
      obtain ⟨rfl, rfl⟩ := cut
      rfl
  | cons char rest ih =>
      obtain ⟨outside, inside⟩ := ih
      cases kind : space char with
      | true =>
          have cut : (char :: rest).splitOnP space = [] :: rest.splitOnP space := by
            rw [List.splitOnP_cons_eq_if_modifyHead, if_pos kind]
          refine ⟨by simpa [collapse, kind, cut] using outside, fun word words split => ?_⟩
          rw [cut, List.cons.injEq] at split
          obtain ⟨rfl, rfl⟩ := split
          simp only [collapse, kind, if_true, Bool.false_eq_true, if_false]
          rw [rdropWhile_cons, outside, List.nil_append]
          cases words : (rest.splitOnP space).filter (· ≠ []) with
          | nil => simp [spaced]
          | cons word others =>
              have nonempty : word ≠ [] := by
                have listed : word ∈ (rest.splitOnP space).filter (· ≠ []) := by
                  rw [words]
                  exact List.mem_cons_self
                simpa using (List.mem_filter.mp listed).2
              rw [intercalate_cons, if_neg (by simp [nonempty])]
              simp [spaced]
      | false =>
          obtain ⟨word, words, cut⟩ := List.exists_cons_of_ne_nil (List.splitOnP_ne_nil space rest)
          have extended : (char :: rest).splitOnP space = (char :: word) :: words := by
            rw [List.splitOnP_cons_eq_if_modifyHead, if_neg (by simp [kind]), cut]
            rfl
          have trimmed : (char :: collapse space false rest).rdropWhile (· = ' ') =
              char :: (word ++ spaced (words.filter (· ≠ []))) := by
            rw [rdropWhile_cons, if_neg (fun both => ne_blank blank kind both.2), inside word words cut]
          constructor
          · simp only [collapse, kind, Bool.false_eq_true, if_false]
            rw [trimmed, extended, List.filter_cons_of_pos (by simp), intercalate_cons]
            rfl
          · intro head tail split
            rw [extended, List.cons.injEq] at split
            obtain ⟨rfl, rfl⟩ := split
            simp only [collapse, kind, Bool.false_eq_true, if_false]
            rw [trimmed]
            rfl

theorem btrim_collapse (text : Text) :
    btrim (collapse space false text) = [' '].intercalate ((text.splitOnP space).filter (· ≠ [])) := by
  rw [btrim, dropWhile_collapse blank, (rdropWhile_collapse blank text).1]

end Trimming

theorem storedNormalization_eq {title : Text} (ascii : Ascii title) :
    storedNormalization title = normalizeTitle title := by
  have same := collapse_congr (fun char member => posixSpace_eq (ascii char member)) false
  rw [storedNormalization, same, btrim_collapse rfl, normalizeTitle, fields]

end MulticaOS.IssueCreation
