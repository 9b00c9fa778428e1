import Mathlib.Data.List.Basic
import Mathlib.Logic.Function.Iterate
import Mathlib.Logic.Relation

/-!
Recursive queries over a table: rounds that add the nodes which a node found so far leads to,
until no round adds one.
-/

namespace ClosureLib

variable {Node : Type} [DecidableEq Node]

def expand (nodes : List Node) (leads : Node → Node → Bool) (found : List Node) : List Node :=
  found ++ nodes.filter fun node => decide (node ∉ found) && found.any fun source => leads source node

/-- As many rounds as the table has nodes are enough, see `mem_closure`. -/
def closure (nodes : List Node) (leads : Node → Node → Bool) (start : List Node) : List Node :=
  (expand nodes leads)^[nodes.length] start

def Edge (nodes : List Node) (leads : Node → Node → Bool) (source target : Node) : Prop :=
  target ∈ nodes ∧ leads source target = true

def Closed (nodes : List Node) (leads : Node → Node → Bool) (found : List Node) : Prop :=
  ∀ source ∈ found, ∀ target, Edge nodes leads source target → target ∈ found

def missing (nodes found : List Node) : Nat := nodes.countP fun node => decide (node ∉ found)

variable {nodes : List Node} {leads : Node → Node → Bool} {start found : List Node} {node : Node}

theorem mem_expand : node ∈ expand nodes leads found ↔
    node ∈ found ∨ (node ∉ found ∧ ∃ source ∈ found, Edge nodes leads source node) := by
  simp only [expand, List.mem_append, List.mem_filter, Bool.and_eq_true, decide_eq_true_eq,
    List.any_eq_true, Edge]
  constructor
  · rintro (old | ⟨listed, new, source, member, leads⟩)
    · exact Or.inl old
    · exact Or.inr ⟨new, source, member, listed, leads⟩
  · rintro (old | ⟨new, source, member, listed, leads⟩)
    · exact Or.inl old
    · exact Or.inr ⟨listed, new, source, member, leads⟩

theorem Closed.expand (closed : Closed nodes leads found) : ClosureLib.expand nodes leads found = found := by
  have none : (nodes.filter fun node =>
      decide (node ∉ found) && found.any fun source => leads source node) = [] := by
    refine List.filter_eq_nil_iff.mpr fun target listed accepted => ?_
    simp only [Bool.and_eq_true, decide_eq_true_eq, List.any_eq_true] at accepted
    obtain ⟨new, source, member, leads⟩ := accepted
    exact new (closed source member target ⟨listed, leads⟩)
  rw [ClosureLib.expand, none, List.append_nil]

theorem missing_expand (unclosed : ¬ Closed nodes leads found) :
    missing nodes (expand nodes leads found) + 1 ≤ missing nodes found := by
  simp only [Closed, not_forall] at unclosed
  obtain ⟨source, member, target, edge, new⟩ := unclosed
  have reached : target ∈ expand nodes leads found := mem_expand.mpr (Or.inr ⟨new, source, member, edge⟩)
  have fewer : ∀ rest : List Node,
      rest.countP (fun node => decide (node ∉ expand nodes leads found)) ≤
        rest.countP fun node => decide (node ∉ found) := by
    intro rest
    refine List.countP_mono_left fun other _ unreached => ?_
    simp only [decide_eq_true_eq] at unreached ⊢
    exact fun old => unreached (mem_expand.mpr (Or.inl old))
  obtain ⟨front, back, split⟩ := List.append_of_mem edge.1
  have frontFewer := fewer front
  have backFewer := fewer back
  generalize expand nodes leads found = next at reached frontFewer backFewer ⊢
  rw [missing, missing, split, List.countP_append, List.countP_append, List.countP_cons, List.countP_cons,
    if_neg (by simpa using reached), if_pos (by simpa using new)]
  omega

theorem iterate_closed_or (rounds : Nat) : Closed nodes leads ((expand nodes leads)^[rounds] start) ∨
    missing nodes ((expand nodes leads)^[rounds] start) + rounds ≤ nodes.length := by
  induction rounds with
  | zero => exact Or.inr List.countP_le_length
  | succ rounds ih =>
      rw [Function.iterate_succ_apply']
      by_cases closed : Closed nodes leads ((expand nodes leads)^[rounds] start)
      · exact Or.inl (closed.expand.symm ▸ closed)
      · have fewer := missing_expand closed
        have bound := ih.resolve_left closed
        exact Or.inr (by omega)

theorem closure_closed : Closed nodes leads (closure nodes leads start) := by
  rcases @iterate_closed_or _ _ nodes leads start nodes.length with closed | bound
  · exact closed
  · intro source _ target edge
    have none : missing nodes (closure nodes leads start) = 0 := by
      rw [closure]
      omega
    have all := List.countP_eq_zero.mp none target edge.1
    simpa using all

theorem start_subset (rounds : Nat) (member : node ∈ start) :
    node ∈ (expand nodes leads)^[rounds] start := by
  induction rounds with
  | zero => exact member
  | succ rounds ih =>
      rw [Function.iterate_succ_apply']
      exact mem_expand.mpr (Or.inl ih)

theorem reached_of_mem (rounds : Nat) (member : node ∈ (expand nodes leads)^[rounds] start) :
    ∃ source ∈ start, Relation.ReflTransGen (Edge nodes leads) source node := by
  induction rounds generalizing node with
  | zero => exact ⟨node, member, .refl⟩
  | succ rounds ih =>
      rw [Function.iterate_succ_apply', mem_expand] at member
      rcases member with old | ⟨-, source, reached, edge⟩
      · exact ih old
      · obtain ⟨origin, starts, path⟩ := ih reached
        exact ⟨origin, starts, path.tail edge⟩

theorem mem_closure : node ∈ closure nodes leads start ↔
    ∃ source ∈ start, Relation.ReflTransGen (Edge nodes leads) source node := by
  constructor
  · exact reached_of_mem nodes.length
  · rintro ⟨source, member, path⟩
    induction path with
    | refl => exact start_subset nodes.length member
    | tail _ edge ih => exact closure_closed _ ih _ edge

end ClosureLib
