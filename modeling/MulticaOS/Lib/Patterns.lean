import Mathlib.Data.List.Forall2
import Mathlib.Data.List.Infix

/-!
SQL's `LIKE`: `%` stands for any text, `_` for any one character, and every other character
for itself.  Patterns with an escape character are left out.
-/

namespace PatternLib

def like : List Char → List Char → Bool
  | [], text => text.isEmpty
  | sign :: pattern, text =>
      if sign = '%' then text.tails.any (like pattern)
      else
        match text with
        | [] => false
        | char :: rest => (sign = '_' || sign = char) && like pattern rest

def fits (sign char : Char) : Prop := sign = '_' ∨ sign = char

variable {part pattern text : List Char}

theorem like_run : like ('%' :: pattern) text = true ↔ ∃ back, back <:+ text ∧ like pattern back = true := by
  simp [like]

theorem like_part_append (fixed : '%' ∉ part) : like (part ++ pattern) text = true ↔
    ∃ front back, text = front ++ back ∧ List.Forall₂ fits part front ∧ like pattern back = true := by
  induction part generalizing text with
  | nil =>
      constructor
      · intro matched
        exact ⟨[], text, rfl, .nil, matched⟩
      · rintro ⟨front, back, rfl, none, matched⟩
        cases none
        exact matched
  | cons sign part ih =>
      rw [List.mem_cons, not_or] at fixed
      obtain ⟨noRun, later⟩ := fixed
      simp only [List.cons_append, like, if_neg fun run : sign = '%' => noRun run.symm]
      cases text with
      | nil =>
          simp only [Bool.false_eq_true, false_iff]
          rintro ⟨front, back, split, matched, _⟩
          cases matched
          simp at split
      | cons char rest =>
          simp only [Bool.and_eq_true, Bool.or_eq_true, decide_eq_true_eq, ih later]
          constructor
          · rintro ⟨fit, front, back, rfl, matched, tail⟩
            exact ⟨char :: front, back, rfl, .cons fit matched, tail⟩
          · rintro ⟨front, back, split, matched, tail⟩
            cases matched with
            | cons fit matched =>
                rw [List.cons_append, List.cons.injEq] at split
                obtain ⟨rfl, rfl⟩ := split
                exact ⟨fit, _, back, rfl, matched, tail⟩

theorem like_anywhere (fixed : '%' ∉ part) : like ('%' :: (part ++ ['%'])) text = true ↔
    ∃ found, found <:+: text ∧ List.Forall₂ fits part found := by
  rw [like_run]
  constructor
  · rintro ⟨rest, ends, matched⟩
    obtain ⟨front, back, rfl, fit, _⟩ := (like_part_append fixed).mp matched
    exact ⟨front, ((List.prefix_append front back).isInfix).trans ends.isInfix, fit⟩
  · rintro ⟨found, ⟨before, after, rfl⟩, fit⟩
    refine ⟨found ++ after, ⟨before, by rw [List.append_assoc]⟩, (like_part_append fixed).mpr ?_⟩
    exact ⟨found, after, rfl, fit, like_run.mpr ⟨[], List.nil_suffix, rfl⟩⟩

theorem forall₂_fits_literal (literal : '_' ∉ part) {found : List Char} :
    List.Forall₂ fits part found ↔ found = part := by
  induction part generalizing found with
  | nil => simp
  | cons sign part ih =>
      rw [List.mem_cons, not_or] at literal
      rw [List.forall₂_cons_left_iff]
      constructor
      · rintro ⟨char, rest, fit, matched, rfl⟩
        rw [(ih literal.2).mp matched, fit.resolve_left fun same => literal.1 same.symm]
      · rintro rfl
        exact ⟨sign, part, .inr rfl, (ih literal.2).mpr rfl, rfl⟩

theorem like_anywhere_literal (fixed : '%' ∉ part) (literal : '_' ∉ part) :
    like ('%' :: (part ++ ['%'])) text = true ↔ part <:+: text := by
  rw [like_anywhere fixed]
  constructor
  · rintro ⟨found, inside, fit⟩
    rwa [(forall₂_fits_literal literal).mp fit] at inside
  · intro inside
    exact ⟨part, inside, (forall₂_fits_literal literal).mpr rfl⟩

theorem forall₂_fits_any {front back : List Char} (literal : '_' ∉ front) {found : List Char} :
    List.Forall₂ fits (front ++ '_' :: back) found ↔
      ∃ char rest, found = front ++ char :: rest ∧ List.Forall₂ fits back rest := by
  induction front generalizing found with
  | nil =>
      rw [List.nil_append, List.forall₂_cons_left_iff]
      constructor
      · rintro ⟨char, rest, _, others, rfl⟩
        exact ⟨char, rest, rfl, others⟩
      · rintro ⟨char, rest, rfl, others⟩
        exact ⟨char, rest, .inl rfl, others, rfl⟩
  | cons sign front ih =>
      rw [List.mem_cons, not_or] at literal
      rw [List.cons_append, List.forall₂_cons_left_iff]
      constructor
      · rintro ⟨first, later, fit, matched, rfl⟩
        obtain ⟨char, rest, rfl, others⟩ := (ih literal.2).mp matched
        rw [← fit.resolve_left fun same => literal.1 same.symm]
        exact ⟨char, rest, rfl, others⟩
      · rintro ⟨char, rest, rfl, others⟩
        exact ⟨sign, front ++ char :: rest, .inr rfl, (ih literal.2).mpr ⟨char, rest, rfl, others⟩, rfl⟩

end PatternLib
