import MulticaOS.Lib.Upserts

/-!
Caches of data under keys: reading, writing, walking over every entry, and undoing writes from the
snapshots of the entries they touched.
-/

namespace CacheLib

abbrev Cache (Key Data : Type) := UpsertLib.Table (Key × Data) Key Prod.fst

variable {Key Data : Type} [DecidableEq Key]

def get (cache : Cache Key Data) (key : Key) : Option Data := (cache.lookup key).map Prod.snd

def set (cache : Cache Key Data) (key : Key) (data : Data) : Cache Key Data :=
  cache.upsert (key, data) (fun _ => (key, data)) fun _ _ => rfl

def remove (cache : Cache Key Data) (key : Key) : Cache Key Data :=
  cache.delete fun entry => entry.1 ≠ key

def update (cache : Cache Key Data) (key : Key) (change : Data → Data) : Cache Key Data :=
  match get cache key with
  | none => cache
  | some data => set cache key (change data)

def walk (cache : Cache Key Data) (change : Key → Data → Data) : Cache Key Data where
  rows := cache.rows.map fun entry => (entry.1, change entry.1 entry.2)
  unique := by
    rw [List.map_map]
    exact cache.unique

def rewrite (cache : Cache Key Data) (change : Key → Data → Option Data) : Cache Key Data :=
  walk cache fun key data => (change key data).getD data

def rewritten (cache : Cache Key Data) (change : Key → Data → Option Data) : List (Key × Data) :=
  cache.rows.filter fun entry => (change entry.1 entry.2).isSome

def restore (cache : Cache Key Data) (snapshots : List (Key × Data)) : Cache Key Data :=
  snapshots.foldl (fun cache snapshot => set cache snapshot.1 snapshot.2) cache

def firstWins (snapshots more : List (Key × Data)) : List (Key × Data) :=
  snapshots ++ more.filter fun snapshot => snapshot.1 ∉ snapshots.map Prod.fst

@[simp] theorem firstWins_nil (more : List (Key × Data)) : firstWins [] more = more := by
  simp [firstWins]

section Reading

variable {cache : Cache Key Data} {key other : Key} {data : Data}

theorem mem_rows : (key, data) ∈ cache.rows ↔ get cache key = some data := by
  rw [UpsertLib.Table.mem_rows, get, Option.map_eq_some_iff]
  constructor
  · intro found
    exact ⟨(key, data), found, rfl⟩
  · rintro ⟨⟨stored, _⟩, found, rfl⟩
    have same : stored = key := UpsertLib.Table.lookup_key found
    rw [same] at found
    exact found

theorem get_set_self : get (set cache key data) key = some data := by
  rw [get, set]
  have found := @UpsertLib.Table.lookup_upsert_self _ _ Prod.fst _ cache (key, data)
    (fun _ => (key, data)) fun _ _ => rfl
  rw [found]
  cases cache.lookup key <;> rfl

theorem get_set_ne (apart : other ≠ key) : get (set cache key data) other = get cache other := by
  rw [get, set, UpsertLib.Table.lookup_upsert_ne _ apart, get]

theorem get_update {change : Data → Data} :
    get (update cache key change) other =
      if other = key then (get cache other).map change else get cache other := by
  cases found : get cache key with
  | none =>
      simp only [update, found]
      split
      · next same => rw [same, found, Option.map_none]
      · rfl
  | some data =>
      simp only [update, found]
      split
      · next same => rw [same, found, Option.map_some, get_set_self]
      · next apart => exact get_set_ne apart

theorem get_walk {change : Key → Data → Data} :
    get (walk cache change) key = (get cache key).map (change key) := by
  have shown : ∀ data, get (walk cache change) key = some data ↔
      (get cache key).map (change key) = some data := by
    intro data
    rw [← mem_rows, Option.map_eq_some_iff]
    constructor
    · intro listed
      obtain ⟨⟨stored, old⟩, member, same⟩ := List.mem_map.mp listed
      rw [Prod.mk.injEq] at same
      obtain ⟨rfl, rfl⟩ := same
      exact ⟨old, mem_rows.mp member, rfl⟩
    · rintro ⟨old, found, rfl⟩
      exact List.mem_map.mpr ⟨(key, old), mem_rows.mpr found, rfl⟩
  exact Option.ext shown

theorem get_rewrite {change : Key → Data → Option Data} :
    get (rewrite cache change) key = (get cache key).map fun data => (change key data).getD data :=
  get_walk

@[simp] theorem get_empty : get (UpsertLib.Table.empty : Cache Key Data) key = none := rfl

theorem get_remove_self : get (remove cache key) key = none := by
  apply Option.eq_none_iff_forall_ne_some.mpr
  intro data found
  have kept := (List.mem_filter.mp (mem_rows.mpr found)).2
  simp at kept

theorem get_remove_ne (apart : other ≠ key) : get (remove cache key) other = get cache other := by
  apply Option.ext
  intro data
  rw [← mem_rows, ← mem_rows, remove, UpsertLib.Table.delete, List.mem_filter]
  simp [apart]

end Reading

/-- The snapshots hold what `before` has under every key where `after` differs from it. -/
structure Covers (before after : Cache Key Data) (snapshots : List (Key × Data)) : Prop where
  unique : (snapshots.map Prod.fst).Nodup
  saved : ∀ snapshot ∈ snapshots, get before snapshot.1 = some snapshot.2
  rest : ∀ key, key ∉ snapshots.map Prod.fst → get after key = get before key

theorem covers_refl (cache : Cache Key Data) : Covers cache cache [] where
  unique := List.nodup_nil
  saved := by simp
  rest := fun _ _ => rfl

theorem covers_rows {before after : Cache Key Data}
    (derived : ∀ key, get before key = none → get after key = none) : Covers before after before.rows where
  unique := before.unique
  saved := fun _ listed => mem_rows.mp listed
  rest := by
    intro key absent
    have missing : get before key = none := by
      apply Option.eq_none_iff_forall_ne_some.mpr
      intro data found
      exact absent (List.mem_map.mpr ⟨(key, data), mem_rows.mpr found, rfl⟩)
    rw [missing, derived key missing]

variable {before after : Cache Key Data} {snapshots : List (Key × Data)}

theorem get_restore (unique : (snapshots.map Prod.fst).Nodup) (cache : Cache Key Data) (key : Key) :
    (∀ data, (key, data) ∈ snapshots → get (restore cache snapshots) key = some data) ∧
      (key ∉ snapshots.map Prod.fst → get (restore cache snapshots) key = get cache key) := by
  induction snapshots generalizing cache with
  | nil => exact ⟨by simp, fun _ => rfl⟩
  | cons first rest ih =>
      rw [List.map_cons, List.nodup_cons] at unique
      obtain ⟨found, missing⟩ := ih unique.2 (set cache first.1 first.2)
      constructor
      · intro data listed
        rcases List.mem_cons.mp listed with rfl | later
        · exact (missing unique.1).trans get_set_self
        · exact found data later
      · intro absent
        rw [List.map_cons, List.mem_cons, not_or] at absent
        exact (missing absent.2).trans (get_set_ne absent.1)

theorem Covers.restored (covers : Covers before after snapshots) (key : Key) :
    get (restore after snapshots) key = get before key := by
  obtain ⟨found, missing⟩ := get_restore covers.unique after key
  by_cases listed : key ∈ snapshots.map Prod.fst
  · obtain ⟨⟨stored, data⟩, member, same⟩ := List.mem_map.mp listed
    have same : stored = key := same
    subst same
    exact (found data member).trans (covers.saved _ member).symm
  · exact (missing listed).trans (covers.rest key listed)

theorem firstWins_unique {more : List (Key × Data)} (unique : (snapshots.map Prod.fst).Nodup)
    (moreUnique : (more.map Prod.fst).Nodup) : ((firstWins snapshots more).map Prod.fst).Nodup := by
  rw [firstWins, List.map_append, List.nodup_append]
  refine ⟨unique, (List.filter_sublist.map Prod.fst).nodup moreUnique, ?_⟩
  rintro _ saved _ added rfl
  obtain ⟨snapshot, kept, same⟩ := List.mem_map.mp added
  have absent := (List.mem_filter.mp kept).2
  rw [same] at absent
  simp [saved] at absent

theorem mem_firstWins_keys {more : List (Key × Data)} {key : Key} :
    key ∈ (firstWins snapshots more).map Prod.fst ↔
      key ∈ snapshots.map Prod.fst ∨ key ∈ more.map Prod.fst := by
  rw [firstWins, List.map_append, List.mem_append]
  constructor
  · rintro (saved | added)
    · exact .inl saved
    · obtain ⟨snapshot, kept, same⟩ := List.mem_map.mp added
      exact .inr (List.mem_map.mpr ⟨snapshot, List.mem_of_mem_filter kept, same⟩)
  · intro either
    by_cases saved : key ∈ snapshots.map Prod.fst
    · exact .inl saved
    · right
      obtain ⟨snapshot, listed, same⟩ := List.mem_map.mp (either.resolve_left saved)
      refine List.mem_map.mpr ⟨snapshot, List.mem_filter.mpr ⟨listed, ?_⟩, same⟩
      rw [same]
      exact decide_eq_true saved

theorem Covers.write {next : Cache Key Data} {more : List (Key × Data)}
    (covers : Covers before after snapshots) (moreUnique : (more.map Prod.fst).Nodup)
    (saved : ∀ snapshot ∈ more, get after snapshot.1 = some snapshot.2)
    (rest : ∀ key, key ∉ more.map Prod.fst → get next key = get after key) :
    Covers before next (firstWins snapshots more) where
  unique := firstWins_unique covers.unique moreUnique
  saved := by
    intro snapshot listed
    rcases List.mem_append.mp listed with old | added
    · exact covers.saved snapshot old
    · obtain ⟨new, absent⟩ := List.mem_filter.mp added
      rw [← covers.rest snapshot.1 (of_decide_eq_true absent)]
      exact saved snapshot new
  rest := by
    intro key absent
    rw [mem_firstWins_keys, not_or] at absent
    exact (rest key absent.2).trans (covers.rest key absent.1)

theorem Covers.rewrite (covers : Covers before after snapshots) (change : Key → Data → Option Data) :
    Covers before (rewrite after change) (firstWins snapshots (rewritten after change)) := by
  apply covers.write
  · exact (List.filter_sublist.map Prod.fst).nodup after.unique
  · intro snapshot listed
    exact mem_rows.mp (List.mem_of_mem_filter listed)
  · intro key absent
    rw [get_rewrite]
    cases found : get after key with
    | none => rfl
    | some data =>
        have unwritten : change key data = none := by
          by_contra written
          apply absent
          refine List.mem_map.mpr ⟨(key, data), List.mem_filter.mpr ⟨mem_rows.mpr found, ?_⟩, rfl⟩
          exact Option.isSome_iff_ne_none.mpr written
        simp [unwritten]

theorem Covers.update (covers : Covers before after snapshots) (key : Key) (change : Data → Data) :
    Covers before (update after key change)
      (firstWins snapshots ((get after key).toList.map fun data => (key, data))) := by
  apply covers.write
  · cases get after key <;> simp
  · intro snapshot listed
    obtain ⟨data, found, rfl⟩ := List.mem_map.mp listed
    exact Option.mem_toList.mp found
  · intro other absent
    rw [get_update]
    split
    · next same =>
        subst same
        cases found : get after other with
        | none => rfl
        | some data => simp [found] at absent
    · rfl

end CacheLib
