import Mathlib.Data.List.Nodup

/-!
Tables with a unique key: `INSERT ... ON CONFLICT (key) DO UPDATE`, deletion, and the row of a
key.
-/

namespace UpsertLib

structure Table (Row Key : Type) (key : Row → Key) where
  rows : List Row
  unique : (rows.map key).Nodup

variable {Row Key : Type} {key : Row → Key}

namespace Table

def empty : Table Row Key key := ⟨[], List.nodup_nil⟩

def delete (table : Table Row Key key) (kept : Row → Bool) : Table Row Key key :=
  ⟨table.rows.filter kept, (table.unique.sublist (List.filter_sublist.map key))⟩

variable [DecidableEq Key]

def lookup (table : Table Row Key key) (wanted : Key) : Option Row :=
  table.rows.find? fun row => key row = wanted

def upsertRows (key : Row → Key) (row : Row) (change : Row → Row) : List Row → List Row
  | [] => [row]
  | head :: rest =>
      if key head = key row then change head :: rest else head :: upsertRows key row change rest

theorem mem_upsertRows {row other : Row} {change : Row → Row} {rows : List Row}
    (member : other ∈ upsertRows key row change rows) :
    other = row ∨ other ∈ rows ∨ ∃ old ∈ rows, key old = key row ∧ other = change old := by
  induction rows with
  | nil => exact Or.inl (by simpa [upsertRows] using member)
  | cons head rest ih =>
      rw [upsertRows] at member
      split at member
      · rename_i same
        rcases List.mem_cons.mp member with rfl | listed
        · exact Or.inr (Or.inr ⟨head, by simp, same, rfl⟩)
        · exact Or.inr (Or.inl (by simp [listed]))
      · rcases List.mem_cons.mp member with rfl | listed
        · exact Or.inr (Or.inl (by simp))
        · rcases ih listed with rfl | old | ⟨old, earlier, same, rfl⟩
          · exact Or.inl rfl
          · exact Or.inr (Or.inl (by simp [old]))
          · exact Or.inr (Or.inr ⟨old, by simp [earlier], same, rfl⟩)

theorem upsertRows_unique {row : Row} {change : Row → Row}
    (keeps : ∀ old, key old = key row → key (change old) = key row) {rows : List Row}
    (unique : (rows.map key).Nodup) : ((upsertRows key row change rows).map key).Nodup := by
  induction rows with
  | nil => simp [upsertRows]
  | cons head rest ih =>
      rw [List.map_cons, List.nodup_cons] at unique
      rw [upsertRows]
      split
      · rename_i same
        rw [List.map_cons, keeps head same, ← same, List.nodup_cons]
        exact unique
      · rename_i apart
        rw [List.map_cons, List.nodup_cons]
        refine ⟨fun listed => ?_, ih unique.2⟩
        obtain ⟨other, member, same⟩ := List.mem_map.mp listed
        rcases mem_upsertRows member with rfl | old | ⟨old, -, stored, rfl⟩
        · exact apart same.symm
        · exact unique.1 (same ▸ List.mem_map_of_mem old)
        · exact apart (same.symm.trans (keeps old stored))

def upsert (table : Table Row Key key) (row : Row) (change : Row → Row)
    (keeps : ∀ old, key old = key row → key (change old) = key row) : Table Row Key key :=
  ⟨upsertRows key row change table.rows, upsertRows_unique keeps table.unique⟩

variable {table : Table Row Key key} {row : Row} {change : Row → Row} {wanted : Key}

theorem lookup_key (found : table.lookup wanted = some row) : key row = wanted := by
  simpa using List.find?_some found

theorem mem_of_lookup (found : table.lookup wanted = some row) : row ∈ table.rows :=
  List.mem_of_find?_eq_some found

theorem find_of_mem {rows : List Row} (unique : (rows.map key).Nodup) (member : row ∈ rows) :
    rows.find? (fun other => key other = key row) = some row := by
  induction rows with
  | nil => contradiction
  | cons head rest ih =>
      rw [List.map_cons, List.nodup_cons] at unique
      rcases List.mem_cons.mp member with rfl | listed
      · simp
      · have apart : key head ≠ key row := fun same => unique.1 (same ▸ List.mem_map_of_mem listed)
        rw [List.find?_cons_of_neg (by simpa using apart)]
        exact ih unique.2 listed

theorem mem_rows : row ∈ table.rows ↔ table.lookup (key row) = some row :=
  ⟨find_of_mem table.unique, mem_of_lookup⟩

theorem find_cons (head : Row) (rest : List Row) :
    (head :: rest).find? (fun row => key row = wanted) =
      if key head = wanted then some head else rest.find? fun row => key row = wanted := by
  by_cases same : key head = wanted
  · simp [same]
  · simp [same]

theorem lookup_upsert_self (keeps : ∀ old, key old = key row → key (change old) = key row) :
    (table.upsert row change keeps).lookup (key row) =
      some (((table.lookup (key row)).map change).getD row) := by
  obtain ⟨rows, unique⟩ := table
  show (upsertRows key row change rows).find? _ = some (((rows.find? _).map change).getD row)
  clear unique
  induction rows with
  | nil => simp [upsertRows]
  | cons head rest ih =>
      by_cases same : key head = key row
      · rw [upsertRows, if_pos same, find_cons, find_cons, if_pos (keeps head same), if_pos same]
        rfl
      · rw [upsertRows, if_neg same, find_cons, find_cons, if_neg same, if_neg same]
        exact ih

theorem filter_upsertRows {keep : Row → Bool} {rows : List Row}
    (appended : (∀ old ∈ rows, key old ≠ key row) → keep row = false)
    (changed : ∀ old ∈ rows, key old = key row → keep old = false ∧ keep (change old) = false) :
    (upsertRows key row change rows).filter keep = rows.filter keep := by
  induction rows with
  | nil => simp [upsertRows, appended]
  | cons head rest ih =>
      by_cases same : key head = key row
      · obtain ⟨old, new⟩ := changed head (by simp) same
        rw [upsertRows, if_pos same, List.filter_cons_of_neg (by simp [new]),
          List.filter_cons_of_neg (by simp [old])]
      · rw [upsertRows, if_neg same, List.filter_cons, List.filter_cons]
        rw [ih (fun absent => appended fun old member => ?_)
          fun old member => changed old (List.mem_cons_of_mem head member)]
        rcases List.mem_cons.mp member with rfl | later
        · exact same
        · exact absent old later

theorem lookup_upsert_ne (keeps : ∀ old, key old = key row → key (change old) = key row)
    (apart : wanted ≠ key row) :
    (table.upsert row change keeps).lookup wanted = table.lookup wanted := by
  obtain ⟨rows, unique⟩ := table
  show (upsertRows key row change rows).find? _ = rows.find? _
  clear unique
  induction rows with
  | nil => simp [upsertRows, Ne.symm apart]
  | cons head rest ih =>
      by_cases same : key head = key row
      · have changed : key (change head) ≠ wanted := by
          rw [keeps head same]
          exact Ne.symm apart
        rw [upsertRows, if_pos same, find_cons, find_cons, if_neg changed, if_neg (same ▸ Ne.symm apart)]
      · rw [upsertRows, if_neg same, find_cons, find_cons, ih]

end Table

end UpsertLib
