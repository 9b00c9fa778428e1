import Mathlib.Data.Nat.Find
import Mathlib.Tactic.Common

/-!
Months of the Gregorian calendar, counted from January 1970, and the days on which they begin.
-/

namespace CalendarLib

def leap (year : Nat) : Bool := year % 4 = 0 && (year % 100 ≠ 0 || year % 400 = 0)

def monthDays (month : Nat) : Nat :=
  match month % 12 with
  | 1 => if leap (1970 + month / 12) then 29 else 28
  | 3 | 5 | 8 | 10 => 30
  | _ => 31

def monthStart : Nat → Nat
  | 0 => 0
  | month + 1 => monthStart month + monthDays month

def monthOf (day : Nat) : Nat := Nat.findGreatest (fun month => monthStart month ≤ day) day

theorem monthDays_pos (month : Nat) : 0 < monthDays month := by
  rw [monthDays]
  split
  · split
    · decide
    · decide
  all_goals decide

theorem le_monthStart (month : Nat) : month ≤ monthStart month := by
  induction month with
  | zero => exact Nat.le_refl 0
  | succ month ih =>
      have days := monthDays_pos month
      rw [monthStart]
      omega

theorem monthStart_monthOf (day : Nat) : monthStart (monthOf day) ≤ day := by
  have first : monthStart 0 ≤ day := Nat.zero_le day
  exact Nat.findGreatest_spec (P := fun month => monthStart month ≤ day) (Nat.zero_le day) first

theorem le_monthOf {month day : Nat} (begun : monthStart month ≤ day) : month ≤ monthOf day :=
  Nat.le_findGreatest (Nat.le_trans (le_monthStart month) begun) begun

theorem lt_monthStart_succ (day : Nat) : day < monthStart (monthOf day + 1) := by
  by_contra notAfter
  have later := le_monthOf (Nat.le_of_not_lt notAfter)
  omega

end CalendarLib
