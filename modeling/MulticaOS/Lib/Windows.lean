import Mathlib.Data.List.Basic

/-!
Duplicate filters that remember the last keys they let through: a key is refused while it
is among the last `capacity` accepted ones.
-/

namespace WindowLib

variable {Key : Type}

def recent (capacity : Nat) (accepted : List Key) : List Key :=
  accepted.drop (accepted.length - capacity)

/-- The window after one more key: the oldest one falls out once there are too many. -/
def push (capacity : Nat) (window : List Key) (key : Key) : List Key :=
  if capacity < (window ++ [key]).length then (window ++ [key]).tail else window ++ [key]

variable {capacity : Nat} {accepted : List Key} {key : Key}

theorem length_recent : (recent capacity accepted).length = min capacity accepted.length := by
  simp only [recent, List.length_drop]
  omega

theorem mem_of_mem_recent (member : key ∈ recent capacity accepted) : key ∈ accepted :=
  List.mem_of_mem_drop member

theorem recent_eq_self (short : accepted.length ≤ capacity) : recent capacity accepted = accepted := by
  simp [recent, Nat.sub_eq_zero_of_le short]

theorem recent_append (capacity : Nat) (accepted : List Key) (key : Key) :
    recent capacity (accepted ++ [key]) = push capacity (recent capacity accepted) key := by
  by_cases short : accepted.length < capacity
  · have fits : (accepted ++ [key]).length ≤ capacity := by
      rw [List.length_append, List.length_singleton]
      omega
    rw [recent_eq_self fits, recent_eq_self (by omega), push, if_neg (by omega)]
  · have long : capacity < (recent capacity accepted ++ [key]).length := by
      rw [List.length_append, length_recent, List.length_singleton]
      omega
    have split : recent capacity accepted ++ [key] =
        (accepted ++ [key]).drop (accepted.length - capacity) := by
      rw [List.drop_append_of_le_length (by omega), recent]
    rw [push, if_pos long, split, List.tail_drop, recent, List.length_append, List.length_singleton]
    congr 1
    omega

end WindowLib
