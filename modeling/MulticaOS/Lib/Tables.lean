import Mathlib

/-!
Tables as lists of rows: updates of the rows that match a condition, the first row
in an order, and counting.
-/

namespace TableLib

variable {Row : Type}

def updateWhere (matching : Row → Bool) (change : Row → Row) (rows : List Row) : List Row :=
  rows.map fun row => if matching row then change row else row

def first (precedes : Row → Row → Bool) : List Row → Option Row
  | [] => none
  | row :: rest =>
      match first precedes rest with
      | none => some row
      | some best => if precedes best row then some best else some row

theorem first_mem {precedes : Row → Row → Bool} {rows : List Row} {row : Row}
    (found : first precedes rows = some row) : row ∈ rows := by
  induction rows with
  | nil => simp [first] at found
  | cons head rest ih =>
      simp only [first] at found
      split at found
      · rw [Option.some.injEq] at found
        simp [found]
      · rename_i best later
        split at found
        · rw [Option.some.injEq] at found
          subst found
          exact List.mem_cons_of_mem _ (ih later)
        · rw [Option.some.injEq] at found
          simp [found]

theorem first_eq_none {precedes : Row → Row → Bool} {rows : List Row} :
    first precedes rows = none ↔ rows = [] := by
  cases rows with
  | nil => simp [first]
  | cons head rest =>
      simp only [first, List.cons_ne_nil, iff_false]
      split
      · simp
      · split <;> simp

theorem first_greatest {Key : Type} [LinearOrder Key] {key : Row → Key} {rows : List Row} {best : Row}
    (found : first (fun left right => decide (key right < key left)) rows = some best) :
    ∀ row ∈ rows, key row ≤ key best := by
  induction rows generalizing best with
  | nil => simp
  | cons head rest ih =>
      simp only [first] at found
      intro row member
      split at found
      · rename_i none
        rw [first_eq_none.mp none, List.mem_singleton] at member
        rw [Option.some.injEq] at found
        rw [member, found]
      · rename_i other later
        have below := ih later
        split at found
        · rename_i precedes
          rw [Option.some.injEq] at found
          subst found
          rcases List.mem_cons.mp member with rfl | listed
          · exact le_of_lt (of_decide_eq_true precedes)
          · exact below row listed
        · rename_i follows
          rw [Option.some.injEq] at found
          subst found
          rcases List.mem_cons.mp member with rfl | listed
          · exact le_refl _
          · exact le_trans (below row listed) (not_lt.mp fun less => follows (decide_eq_true less))

theorem mem_updateWhere {matching : Row → Bool} {change : Row → Row} {rows : List Row} {row : Row}
    (member : row ∈ updateWhere matching change rows) :
    (row ∈ rows ∧ matching row = false) ∨
      ∃ old ∈ rows, matching old = true ∧ row = change old := by
  obtain ⟨old, listed, same⟩ := List.mem_map.mp member
  by_cases matched : matching old = true
  · rw [if_pos matched] at same
    exact Or.inr ⟨old, listed, matched, same.symm⟩
  · rw [if_neg matched] at same
    subst same
    exact Or.inl ⟨listed, by simpa using matched⟩

theorem mem_updateWhere_one {matching : Row → Bool} {change : Row → Row} {rows : List Row}
    {chosen row : Row} (member : chosen ∈ rows)
    (only : ∀ row ∈ rows, matching row = true ↔ row = chosen) :
    row ∈ updateWhere matching change rows ↔ (row ∈ rows ∧ row ≠ chosen) ∨ row = change chosen := by
  constructor
  · intro listed
    rcases mem_updateWhere listed with ⟨inTable, unmatched⟩ | ⟨old, inTable, matched, rfl⟩
    · refine Or.inl ⟨inTable, fun same => ?_⟩
      rw [(only row inTable).mpr same] at unmatched
      contradiction
    · rw [(only old inTable).mp matched]
      exact Or.inr rfl
  · rintro (⟨inTable, different⟩ | rfl)
    · exact List.mem_map.mpr ⟨row, inTable, if_neg (mt (only row inTable).mp different)⟩
    · exact List.mem_map.mpr ⟨chosen, member, if_pos ((only chosen member).mpr rfl)⟩

theorem updateWhere_none {matching : Row → Bool} {change : Row → Row} {rows : List Row}
    (unmatched : ∀ row ∈ rows, matching row = false) : updateWhere matching change rows = rows := by
  refine (List.map_congr_left fun row member => ?_).trans (List.map_id rows)
  rw [unmatched row member]
  rfl

theorem map_updateWhere {Key : Type} {key : Row → Key} {matching : Row → Bool}
    {change : Row → Row} (keeps : ∀ row, key (change row) = key row) (rows : List Row) :
    (updateWhere matching change rows).map key = rows.map key := by
  rw [updateWhere, List.map_map]
  refine List.map_congr_left fun row _ => ?_
  simp only [Function.comp]
  split
  · exact keeps row
  · rfl

theorem first_least {Key : Type} [LinearOrder Key] {key : Row → Key} {rows : List Row} {best : Row}
    (found : first (fun left right => decide (key left < key right)) rows = some best) :
    ∀ row ∈ rows, key best ≤ key row :=
  @first_greatest Row (OrderDual Key) _ (fun row => OrderDual.toDual (key row)) rows best found

theorem countP_map_le {holds : Row → Bool} {change : Row → Row} {rows : List Row}
    (keeps : ∀ row ∈ rows, holds (change row) = true → holds row = true) :
    (rows.map change).countP holds ≤ rows.countP holds := by
  induction rows with
  | nil => simp
  | cons head rest ih =>
      have later := ih fun row member => keeps row (by simp [member])
      have here := keeps head (by simp)
      rw [List.map_cons, List.countP_cons, List.countP_cons]
      split
      · rename_i changed
        rw [if_pos (here changed)]
        omega
      · split <;> omega

theorem countP_map_le_succ {Key : Type} [DecidableEq Key] {key : Row → Key} {chosen : Key}
    {holds : Row → Bool} {change : Row → Row} {rows : List Row} (unique : (rows.map key).Nodup)
    (others : ∀ row ∈ rows, key row ≠ chosen → change row = row) :
    (rows.map change).countP holds ≤ rows.countP holds + 1 := by
  induction rows with
  | nil => simp
  | cons head rest ih =>
      rw [List.map_cons, List.nodup_cons] at unique
      rw [List.map_cons, List.countP_cons, List.countP_cons]
      by_cases isChosen : key head = chosen
      · have unchanged : rest.map change = rest := by
          refine (List.map_congr_left fun row member => ?_).trans (List.map_id rest)
          refine others row (by simp [member]) fun same => unique.1 ?_
          rw [isChosen, ← same]
          exact List.mem_map_of_mem member
        rw [unchanged]
        split <;> split <;> omega
      · have headSame := others head (by simp) isChosen
        have later := ih unique.2 fun row member => others row (by simp [member])
        rw [headSame]
        omega

theorem countP_le_one {Key : Type} {key : Row → Key} {holds : Row → Bool} {rows : List Row}
    (unique : (rows.map key).Nodup)
    (shared : ∀ left ∈ rows, ∀ right ∈ rows, holds left = true → holds right = true →
      key left = key right) : rows.countP holds ≤ 1 := by
  induction rows with
  | nil => simp
  | cons head rest ih =>
      rw [List.map_cons, List.nodup_cons] at unique
      have later := ih unique.2 fun left leftMember right rightMember =>
        shared left (by simp [leftMember]) right (by simp [rightMember])
      rw [List.countP_cons]
      by_cases headHolds : holds head = true
      · have none : rest.countP holds = 0 := by
          refine List.countP_eq_zero.mpr fun row member rowHolds => unique.1 ?_
          rw [shared head (by simp) row (by simp [member]) headHolds rowHolds]
          exact List.mem_map_of_mem member
        rw [none]
        split <;> omega
      · rw [if_neg headHolds]
        exact later

end TableLib
