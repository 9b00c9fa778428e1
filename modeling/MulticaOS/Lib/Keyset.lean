import MulticaOS.Lib.Tables

/-!
Keyset pagination: pages of the rows that follow a rank, each page read from a snapshot of
its own, and the walk that continues each page after the last row of the page before.
-/

namespace KeysetLib

variable {Row Rank : Type} [LinearOrder Rank]

section Pages

variable (rank : Row → Rank) (limit : Nat)

def following (after : Option Rank) (rows : List Row) : List Row :=
  (rows.filter fun row => after.all fun bound => decide (bound < rank row)).insertionSort
    fun left right => rank left ≤ rank right

def page (after : Option Rank) (rows : List Row) : List Row := (following rank after rows).take limit

def pageEnd (after : Option Rank) (rows : List Row) : Option Row :=
  if limit < (following rank after rows).length then (page rank limit after rows).getLast? else none

/-- The rows of a walk, one page from each snapshot, and whether it has come to its end. -/
def walk : Option Rank → List (List Row) → List Row × Bool
  | _, [] => ([], false)
  | after, rows :: rest =>
      match pageEnd rank limit after rows with
      | none => (page rank limit after rows, true)
      | some last =>
          (page rank limit after rows ++ (walk (some (rank last)) rest).1,
            (walk (some (rank last)) rest).2)

def ends : Option Rank → List (List Row) → List Row
  | after, rows :: next :: rest =>
      match pageEnd rank limit after rows with
      | none => []
      | some last => last :: ends (some (rank last)) (next :: rest)
  | _, _ => []

end Pages

section Order

variable {rank : Row → Rank} {limit : Nat} {after : Option Rank} {rows : List Row} {row last : Row}

theorem mem_following :
    row ∈ following rank after rows ↔ row ∈ rows ∧ ∀ bound, after = some bound → bound < rank row := by
  rw [following, List.mem_insertionSort, List.mem_filter]
  cases after <;> simp

theorem following_sorted (unique : (rows.map rank).Nodup) :
    (following rank after rows).Pairwise fun left right => rank left < rank right := by
  have perm : (following rank after rows).Perm _ := List.perm_insertionSort _ _
  have distinct : ((following rank after rows).map rank).Nodup :=
    (perm.map rank).nodup_iff.mpr (unique.sublist (List.filter_sublist.map rank))
  have ascending : (following rank after rows).Pairwise fun left right => rank left ≤ rank right :=
    List.pairwise_insertionSort _ _
  exact (ascending.and (List.pairwise_map.mp distinct)).imp
    fun both => lt_of_le_of_ne both.1 both.2

theorem page_sublist : (page rank limit after rows).Sublist (following rank after rows) :=
  List.take_sublist _ _

theorem page_eq_following (positive : 0 < limit) (ended : pageEnd rank limit after rows = none) :
    page rank limit after rows = following rank after rows := by
  rw [pageEnd] at ended
  split at ended
  · rename_i more
    rw [List.getLast?_eq_none_iff, page, List.take_eq_nil_iff] at ended
    rcases ended with zero | empty
    · omega
    · simp [empty] at more
  · rename_i fits
    exact List.take_of_length_le (by omega)

theorem pageEnd_mem (ended : pageEnd rank limit after rows = some last) :
    last ∈ page rank limit after rows := by
  rw [pageEnd] at ended
  split at ended
  · exact List.mem_of_getLast? ended
  · contradiction

theorem mem_page (unique : (rows.map rank).Nodup) (ended : pageEnd rank limit after rows = some last) :
    row ∈ page rank limit after rows ↔ row ∈ following rank after rows ∧ rank row ≤ rank last := by
  have sorted : (following rank after rows).Pairwise _ := following_sorted unique
  have last_mem := pageEnd_mem ended
  rw [pageEnd] at ended
  split at ended
  · obtain ⟨front, shape⟩ := List.getLast?_eq_some_iff.mp ended
    have split := List.take_append_drop limit (following rank after rows)
    rw [← split, List.pairwise_append] at sorted
    constructor
    · intro member
      refine ⟨page_sublist.subset member, ?_⟩
      have front_sorted := sorted.1
      change (page rank limit after rows).Pairwise _ at front_sorted
      rw [shape] at member front_sorted
      rcases List.mem_append.mp member with earlier | same
      · exact le_of_lt ((List.pairwise_append.mp front_sorted).2.2 row earlier last (by simp))
      · rw [List.mem_singleton.mp same]
    · rintro ⟨member, bounded⟩
      rw [← split] at member
      rcases List.mem_append.mp member with inside | later
      · exact inside
      · exact absurd (sorted.2.2 last last_mem row later) (not_lt.mpr bounded)
  · contradiction

end Order

section Walks

variable {rank : Row → Rank} {limit : Nat} {after : Option Rank} {snapshots : List (List Row)}

theorem walk_after {row : Row} (member : row ∈ (walk rank limit after snapshots).1) :
    ∀ bound, after = some bound → bound < rank row := by
  induction snapshots generalizing after with
  | nil => simp [walk] at member
  | cons rows rest ih =>
      rw [walk] at member
      split at member
      · exact (mem_following.mp (page_sublist.subset member)).2
      · rename_i last ended
        rcases List.mem_append.mp member with here | later
        · exact (mem_following.mp (page_sublist.subset here)).2
        · intro bound same
          have last_after := (mem_following.mp (page_sublist.subset (pageEnd_mem ended))).2 bound same
          exact lt_trans last_after (ih later _ rfl)

theorem walk_mem {row : Row} (member : row ∈ (walk rank limit after snapshots).1) :
    ∃ rows ∈ snapshots, row ∈ rows := by
  induction snapshots generalizing after with
  | nil => simp [walk] at member
  | cons rows rest ih =>
      rw [walk] at member
      split at member
      · exact ⟨rows, by simp, (mem_following.mp (page_sublist.subset member)).1⟩
      · rcases List.mem_append.mp member with here | later
        · exact ⟨rows, by simp, (mem_following.mp (page_sublist.subset here)).1⟩
        · obtain ⟨snapshot, listed, inside⟩ := ih later
          exact ⟨snapshot, List.mem_cons_of_mem _ listed, inside⟩

theorem walk_sorted (unique : ∀ rows ∈ snapshots, (rows.map rank).Nodup) :
    (walk rank limit after snapshots).1.Pairwise fun left right => rank left < rank right := by
  induction snapshots generalizing after with
  | nil => simp [walk]
  | cons rows rest ih =>
      have here : (page rank limit after rows).Pairwise _ :=
        (following_sorted (unique rows (by simp))).sublist page_sublist
      rw [walk]
      split
      · exact here
      · rename_i last ended
        refine List.pairwise_append.mpr
          ⟨here, ih fun other member => unique other (by simp [member]), fun row inPage other later => ?_⟩
        have bounded := ((mem_page (unique rows (by simp)) ended).mp inPage).2
        exact lt_of_le_of_lt bounded (walk_after later _ rfl)

def Stable (rank : Row → Rank) (snapshots : List (List Row)) (chosen : Row → Bool) (place : Rank) :
    Prop :=
  ∀ rows ∈ snapshots, rows.countP chosen = 1 ∧ ∀ row ∈ rows, chosen row = true → rank row = place

variable {chosen : Row → Bool} {place : Rank}

theorem walk_count_le_one (unique : ∀ rows ∈ snapshots, (rows.map rank).Nodup)
    (stable : Stable rank snapshots chosen place) :
    (walk rank limit after snapshots).1.countP chosen ≤ 1 := by
  have distinct : ((walk rank limit after snapshots).1.map rank).Nodup :=
    List.pairwise_map.mpr ((walk_sorted unique).imp fun less => ne_of_lt less)
  refine TableLib.countP_le_one distinct fun left leftIn right rightIn isLeft isRight => ?_
  obtain ⟨leftRows, leftListed, leftHere⟩ := walk_mem leftIn
  obtain ⟨rightRows, rightListed, rightHere⟩ := walk_mem rightIn
  rw [(stable leftRows leftListed).2 left leftHere isLeft,
    (stable rightRows rightListed).2 right rightHere isRight]

theorem walk_returns (positive : 0 < limit) (unique : ∀ rows ∈ snapshots, (rows.map rank).Nodup)
    (stable : Stable rank snapshots chosen place) (ahead : ∀ bound, after = some bound → bound < place)
    (ended : (walk rank limit after snapshots).2 = true) :
    ∃ row ∈ (walk rank limit after snapshots).1, chosen row = true := by
  induction snapshots generalizing after with
  | nil => simp [walk] at ended
  | cons rows rest ih =>
      obtain ⟨once, placed⟩ := stable rows (by simp)
      obtain ⟨row, member, isChosen⟩ := List.countP_pos_iff.mp (once ▸ Nat.one_pos)
      have follows : row ∈ following rank after rows := by
        refine mem_following.mpr ⟨member, ?_⟩
        rwa [placed row member isChosen]
      rw [walk] at ended ⊢
      split
      · rename_i finished
        exact ⟨row, (page_eq_following positive finished) ▸ follows, isChosen⟩
      · rename_i last continues
        rw [continues] at ended
        by_cases reached : rank row ≤ rank last
        · exact ⟨row, List.mem_append_left _
            ((mem_page (unique rows (by simp)) continues).mpr ⟨follows, reached⟩), isChosen⟩
        · have further : ∀ bound, some (rank last) = some bound → bound < place := by
            rintro _ ⟨⟩
            rw [← placed row member isChosen]
            exact not_le.mp reached
          obtain ⟨other, later, isOther⟩ := ih (fun other listed => unique other (by simp [listed]))
            (fun other listed => stable other (by simp [listed])) further ended
          exact ⟨other, List.mem_append_right _ later, isOther⟩

theorem walk_ends (ranks : List Rank) (bounded : ∀ rows ∈ snapshots, ∀ row ∈ rows, rank row ∈ ranks)
    (enough : (ranks.filter fun place => after.all fun bound => decide (bound < place)).length <
      snapshots.length) : (walk rank limit after snapshots).2 = true := by
  induction snapshots generalizing after with
  | nil => simp at enough
  | cons rows rest ih =>
      rw [walk]
      split
      · rfl
      · rename_i last continues
        refine ih (fun other listed => bounded other (by simp [listed])) ?_
        have member := mem_following.mp (page_sublist.subset (pageEnd_mem continues))
        have listed : rank last ∈ ranks.filter fun place => after.all fun bound => decide (bound < place) := by
          refine List.mem_filter.mpr ⟨bounded rows (by simp) last member.1, ?_⟩
          cases after with
          | none => rfl
          | some bound => simpa using member.2 bound rfl
        have fewer : (ranks.filter fun place => decide (rank last < place)) =
            (ranks.filter fun place => after.all fun bound => decide (bound < place)).filter
              fun place => decide (rank last < place) := by
          rw [List.filter_filter]
          refine List.filter_congr fun place _ => ?_
          cases after with
          | none => simp
          | some bound =>
              have last_after := member.2 bound rfl
              by_cases later : rank last < place
              · simp [later, lt_trans last_after later]
              · simp [later]
        simp only [Option.all_some]
        rw [fewer]
        have shorter := List.length_filter_lt_length_iff_exists
          (p := fun place => decide (rank last < place)) |>.mpr ⟨rank last, listed, by simp⟩
        rw [List.length_cons] at enough
        omega

end Walks

section Still

variable {rank : Row → Rank} {limit : Nat} {after : Option Rank} {rows : List Row} {last : Row}

theorem eq_of_ascending {left right : List Row}
    (leftSorted : left.Pairwise fun low high => rank low < rank high)
    (rightSorted : right.Pairwise fun low high => rank low < rank high)
    (same : ∀ row, row ∈ left ↔ row ∈ right) : left = right := by
  have leftDistinct : left.Nodup := leftSorted.imp fun less equal => absurd (equal ▸ less) (lt_irrefl _)
  have rightDistinct : right.Nodup := rightSorted.imp fun less equal => absurd (equal ▸ less) (lt_irrefl _)
  refine List.Perm.eq_of_pairwise ?_ leftSorted rightSorted
    ((List.perm_ext_iff_of_nodup leftDistinct rightDistinct).mpr same)
  intro low high _ _ less greater
  exact absurd (lt_trans less greater) (lt_irrefl _)

theorem following_eq_page_append (unique : (rows.map rank).Nodup)
    (ended : pageEnd rank limit after rows = some last) :
    following rank after rows =
      page rank limit after rows ++ following rank (some (rank last)) rows := by
  have lastAfter := (mem_following.mp (page_sublist.subset (pageEnd_mem ended))).2
  refine eq_of_ascending (following_sorted unique) ?_ fun row => ?_
  · refine List.pairwise_append.mpr ⟨(following_sorted unique).sublist page_sublist,
      following_sorted unique, fun row inPage other later => ?_⟩
    have bounded := ((mem_page unique ended).mp inPage).2
    exact lt_of_le_of_lt bounded ((mem_following.mp later).2 _ rfl)
  · rw [List.mem_append, mem_page unique ended, mem_following, mem_following]
    constructor
    · rintro ⟨member, isAfter⟩
      rcases le_or_gt (rank row) (rank last) with reached | later
      · exact Or.inl ⟨⟨member, isAfter⟩, reached⟩
      · refine Or.inr ⟨member, ?_⟩
        rintro _ ⟨⟩
        exact later
    · rintro (⟨here, -⟩ | ⟨member, later⟩)
      · exact here
      · exact ⟨member, fun bound same => lt_trans (lastAfter bound same) (later _ rfl)⟩

end Still

end KeysetLib
