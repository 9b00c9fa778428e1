import Mathlib.Tactic.Common

/-!
Exclusive locks held by owners: the lock of a key has one owner at a time, its owner may
take it again, and an owner gives all its locks back at once.
-/

namespace LockLib

variable {Key Owner : Type} [DecidableEq Key] [DecidableEq Owner]

/-- The locks of an owner after it has taken one more, unless another owner has it. -/
def acquire (locks : List (Key × Owner)) (key : Key) (owner : Owner) : Option (List (Key × Owner)) :=
  if locks.any fun lock => lock.1 = key && lock.2 ≠ owner then none else some ((key, owner) :: locks)

def release (locks : List (Key × Owner)) (owner : Owner) : List (Key × Owner) :=
  locks.filter fun lock => lock.2 ≠ owner

def Exclusive (locks : List (Key × Owner)) : Prop :=
  ∀ key left right, (key, left) ∈ locks → (key, right) ∈ locks → left = right

variable {locks taken : List (Key × Owner)} {key : Key} {owner : Owner}

theorem acquire_spec (took : acquire locks key owner = some taken) :
    taken = (key, owner) :: locks ∧ ∀ other, (key, other) ∈ locks → other = owner := by
  rw [acquire] at took
  split at took
  · contradiction
  · rename_i free
    refine ⟨(Option.some.inj took).symm, ?_⟩
    intro other member
    by_contra different
    exact free (List.any_eq_true.mpr ⟨_, member, by simp [different]⟩)

theorem Exclusive.acquire (exclusive : Exclusive locks)
    (took : LockLib.acquire locks key owner = some taken) : Exclusive taken := by
  obtain ⟨rfl, alone⟩ := acquire_spec took
  intro other left right leftMember rightMember
  rcases List.mem_cons.mp leftMember with same | leftLater
  · obtain ⟨rfl, rfl⟩ := Prod.mk.inj same
    rcases List.mem_cons.mp rightMember with same | rightLater
    · exact (Prod.mk.inj same).2.symm
    · exact (alone right rightLater).symm
  · rcases List.mem_cons.mp rightMember with same | rightLater
    · obtain ⟨rfl, rfl⟩ := Prod.mk.inj same
      exact alone left leftLater
    · exact exclusive other left right leftLater rightLater

omit [DecidableEq Key]

theorem mem_release {lock : Key × Owner} :
    lock ∈ release locks owner ↔ lock ∈ locks ∧ lock.2 ≠ owner := by
  simp [release]

end LockLib
