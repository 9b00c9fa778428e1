import Mathlib.Data.List.Basic

/-!
Parts of a stream, each behind a header that says how long it is: what the stream says about
its parts.
-/

namespace FrameLib

variable {Symbol : Type}

/-- How a length is written, so that a reader knows where the writing ends. -/
structure Header (Symbol : Type) where
  write : Nat → List Symbol
  delimited : ∀ {left right : Nat} {back other : List Symbol},
    write left ++ back = write right ++ other → left = right

theorem eq_of_append_mark {mark : Symbol} {left right back other : List Symbol}
    (same : left ++ mark :: back = right ++ mark :: other) (leftFree : mark ∉ left)
    (rightFree : mark ∉ right) : left = right := by
  induction left generalizing right with
  | nil =>
      cases right with
      | nil => rfl
      | cons first rest => simp_all
  | cons first rest ih =>
      cases right with
      | nil => simp_all
      | cons next later =>
          rw [List.cons_append, List.cons_append, List.cons.injEq] at same
          rw [List.mem_cons, not_or] at leftFree rightFree
          rw [same.1, ih same.2 leftFree.2 rightFree.2]

def Header.ofDigits (digits : Nat → List Symbol) (value : List Symbol → Nat) (mark : Symbol)
    (inverse : ∀ length, value (digits length) = length) (free : ∀ length, mark ∉ digits length) :
    Header Symbol where
  write length := digits length ++ [mark]
  delimited := by
    intro left right back other same
    rw [List.append_assoc, List.append_assoc, List.singleton_append, List.singleton_append] at same
    rw [← inverse left, eq_of_append_mark same (free left) (free right), inverse right]

variable (header : Header Symbol) (trailer : List Symbol)

def frame (part : List Symbol) : List Symbol := header.write part.length ++ part ++ trailer

def frames (parts : List (List Symbol)) : List Symbol := parts.flatMap (frame header trailer)

variable {header trailer}

theorem frame_append_inj {left right back other : List Symbol}
    (same : frame header trailer left ++ back = frame header trailer right ++ other) :
    left = right ∧ back = other := by
  simp only [frame, List.append_assoc] at same
  have lengths := header.delimited same
  rw [lengths] at same
  obtain ⟨parts, rest⟩ := List.append_inj (List.append_cancel_left same) lengths
  exact ⟨parts, List.append_cancel_left rest⟩

theorem frames_injective (nonempty : ∀ length, header.write length ≠ []) :
    Function.Injective (frames header trailer) := by
  intro left right same
  induction left generalizing right with
  | nil =>
      cases right with
      | nil => rfl
      | cons part rest =>
          have first := nonempty part.length
          simp_all [frames, frame]
  | cons part rest ih =>
      cases right with
      | nil =>
          have first := nonempty part.length
          simp_all [frames, frame]
      | cons next later =>
          simp only [frames, List.flatMap_cons] at same
          obtain ⟨samePart, sameRest⟩ := frame_append_inj same
          rw [samePart, ih sameRest]

end FrameLib
