import Mathlib.Logic.Relation
import Mathlib.Tactic.Common

/-!
Forests given by a parent function: walks up, ancestors, and what becomes of a forest when one
node is moved.
-/

namespace ForestLib

variable {Node : Type}

def Above (parent : Node → Option Node) (upper lower : Node) : Prop := parent lower = some upper

def Forest (parent : Node → Option Node) : Prop := ∀ node, Acc (Above parent) node

def ancestorAt (parent : Node → Option Node) : Nat → Node → Option Node
  | 0, node => some node
  | depth + 1, node => (parent node).bind (ancestorAt parent depth)

section Walks

variable {parent : Node → Option Node} {node upper lower : Node}

theorem ancestorAt_succ (above : Above parent upper lower) (depth : Nat) :
    ancestorAt parent (depth + 1) lower = ancestorAt parent depth upper := by
  rw [ancestorAt, above, Option.bind_some]

theorem reachable_iff : Relation.ReflTransGen (Above parent) upper lower ↔
    ∃ depth, ancestorAt parent depth lower = some upper := by
  constructor
  · intro path
    induction path with
    | refl => exact ⟨0, rfl⟩
    | tail _ last ih =>
        obtain ⟨depth, found⟩ := ih
        exact ⟨depth + 1, by rw [ancestorAt_succ last, found]⟩
  · rintro ⟨depth, found⟩
    induction depth generalizing lower with
    | zero =>
        cases found
        exact .refl
    | succ depth ih =>
        obtain ⟨above, step, rest⟩ := Option.bind_eq_some_iff.mp found
        exact .tail (ih rest) step

theorem Forest.ends (forest : Forest parent) (node : Node) :
    ∃ depth, ancestorAt parent depth node = none := by
  induction forest node with
  | intro node _ ih =>
      cases above : parent node with
      | none => exact ⟨1, by simp [ancestorAt, above]⟩
      | some upper =>
          obtain ⟨depth, ended⟩ := ih upper above
          exact ⟨depth + 1, by rw [ancestorAt_succ above, ended]⟩

theorem Forest.rooted (forest : Forest parent) (node : Node) :
    ∃ root, parent root = none ∧ Relation.ReflTransGen (Above parent) root node := by
  induction forest node with
  | intro node _ ih =>
      cases above : parent node with
      | none => exact ⟨node, above, .refl⟩
      | some upper =>
          obtain ⟨root, top, path⟩ := ih upper above
          exact ⟨root, top, .tail path above⟩

theorem Forest.acyclic (forest : Forest parent) (node : Node) :
    ¬ Relation.TransGen (Above parent) node node := by
  have accessible := (forest node).transGen
  induction accessible with
  | intro node _ ih =>
      intro cycle
      exact ih node cycle cycle

theorem acc_of_rooted {root : Node} (top : parent root = none)
    (path : Relation.ReflTransGen (Above parent) root node) : Acc (Above parent) node := by
  induction path with
  | refl =>
      refine ⟨root, fun upper above => ?_⟩
      rw [Above, top] at above
      cases above
  | @tail middle last _ step ih =>
      refine ⟨last, fun upper above => ?_⟩
      rw [Above, step] at above
      cases above
      exact ih

theorem Forest.parent_apart (forest : Forest parent) (above : parent node = some upper) :
    ¬ Relation.ReflTransGen (Above parent) node upper := by
  intro below
  exact forest.acyclic node (Relation.TransGen.tail' below above)

end Walks

section Moves

variable [DecidableEq Node] {parent : Node → Option Node} {node target : Node} {goal : Option Node}

theorem above_update_of_ne {upper lower : Node} (other : lower ≠ node) :
    Above (Function.update parent node goal) upper lower ↔ Above parent upper lower := by
  rw [Above, Above, Function.update_of_ne other]

theorem acc_update (accessible : Acc (Above parent) target)
    (apart : ¬ Relation.ReflTransGen (Above parent) node target) :
    Acc (Above (Function.update parent node goal)) target := by
  induction accessible with
  | intro target _ ih =>
      have other : target ≠ node := by
        rintro rfl
        exact apart .refl
      refine ⟨target, fun upper above => ?_⟩
      rw [above_update_of_ne other] at above
      exact ih upper above fun path => apart (.tail path above)

theorem Forest.update (forest : Forest parent)
    (apart : ∀ target, goal = some target → ¬ Relation.ReflTransGen (Above parent) node target) :
    Forest (Function.update parent node goal) := by
  have moved : Acc (Above (Function.update parent node goal)) node := by
    refine ⟨node, fun upper above => ?_⟩
    rw [Above, Function.update_self] at above
    exact acc_update (forest upper) (apart upper above)
  intro lower
  induction forest lower with
  | intro lower _ ih =>
      by_cases here : lower = node
      · rw [here]
        exact moved
      · refine ⟨lower, fun upper above => ?_⟩
        rw [above_update_of_ne here] at above
        exact ih upper above

theorem path_update {lower : Node} (path : Relation.ReflTransGen (Above parent) node lower) :
    Relation.ReflTransGen (Above (Function.update parent node goal)) node lower := by
  induction path with
  | refl => exact .refl
  | @tail middle last _ step ih =>
      by_cases here : last = node
      · rw [here]
      · exact .tail ih ((above_update_of_ne here).mpr step)

theorem not_forest_update (below : Relation.ReflTransGen (Above parent) node target) :
    ¬ Forest (Function.update parent node (some target)) := by
  intro forest
  have last : Above (Function.update parent node (some target)) target node := by
    rw [Above, Function.update_self]
  apply forest.acyclic node
  exact Relation.TransGen.tail' (path_update below) last

theorem Forest.update_iff (forest : Forest parent) :
    Forest (Function.update parent node goal) ↔
      ∀ target, goal = some target → ¬ Relation.ReflTransGen (Above parent) node target := by
  constructor
  · rintro moved target rfl below
    exact not_forest_update below moved
  · exact forest.update

end Moves

end ForestLib
