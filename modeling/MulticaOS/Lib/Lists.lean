import Mathlib.Data.List.Nodup

/-!
Partial maps over lists: when every element succeeds and what the results share; lookups.
-/

namespace ListLib

variable {α β γ : Type}

theorem mapM_cons_some {transform : α → Option β} {first : α} {rest : List α} {results : List β}
    (found : (first :: rest).mapM transform = some results) :
    ∃ result others, transform first = some result ∧ rest.mapM transform = some others ∧
      results = result :: others := by
  rw [List.mapM_cons] at found
  simp only [Option.bind_eq_bind, Option.bind_eq_some_iff, Option.pure_def,
    Option.some.injEq] at found
  obtain ⟨result, here, others, later, same⟩ := found
  exact ⟨result, others, here, later, same.symm⟩

theorem mapM_cons_of_some {transform : α → Option β} {first : α} {rest : List α} {result : β}
    {others : List β} (here : transform first = some result)
    (later : rest.mapM transform = some others) :
    (first :: rest).mapM transform = some (result :: others) := by
  rw [List.mapM_cons, here, later]
  rfl

theorem mapM_select {transform : α → Option β} {other : α → Option γ} {convert : β → γ}
    {accepts : α → Bool} {items : List α} {results : List β}
    (each : ∀ item ∈ items, ∀ result, transform item = some result →
      other item = if accepts item then some (convert result) else none)
    (found : items.mapM transform = some results) :
    items.mapM other = if items.all accepts then some (results.map convert) else none := by
  induction items generalizing results with
  | nil =>
      rw [List.mapM_nil] at found
      cases found
      rfl
  | cons first rest ih =>
      obtain ⟨result, others, here, later, rfl⟩ := mapM_cons_some found
      have head := each first (by simp) result here
      have tail := ih (fun item member => each item (by simp [member])) later
      rw [List.mapM_cons, head, tail, List.all_cons]
      by_cases accepted : accepts first = true
      · by_cases restAccepted : rest.all accepts = true
        · simp [accepted, restAccepted]
        · simp [accepted, restAccepted]
      · simp [accepted]

theorem mapM_relate {transform : α → Option β} {other : α → Option γ} {related : γ → β → Prop}
    {items : List α} {results : List β}
    (each : ∀ item ∈ items, ∀ result, transform item = some result →
      ∃ original, other item = some original ∧ related original result)
    (found : items.mapM transform = some results) :
    ∃ originals, items.mapM other = some originals ∧ List.Forall₂ related originals results := by
  induction items generalizing results with
  | nil =>
      rw [List.mapM_nil] at found
      cases found
      exact ⟨[], rfl, List.Forall₂.nil⟩
  | cons first rest ih =>
      obtain ⟨result, others, here, later, rfl⟩ := mapM_cons_some found
      obtain ⟨original, read, same⟩ := each first (by simp) result here
      obtain ⟨originals, readRest, sameRest⟩ :=
        ih (fun item member => each item (by simp [member])) later
      exact ⟨original :: originals, mapM_cons_of_some read readRest,
        List.Forall₂.cons same sameRest⟩

theorem some_of_mapM {transform : α → Option β} {items : List α} {results : List β} {item : α}
    (found : items.mapM transform = some results) (member : item ∈ items) :
    ∃ result, transform item = some result := by
  induction items generalizing results with
  | nil => contradiction
  | cons first rest ih =>
      obtain ⟨head, others, here, later, -⟩ := mapM_cons_some found
      rcases List.mem_cons.mp member with rfl | inRest
      · exact ⟨head, here⟩
      · exact ih later inRest

theorem mem_of_mapM {transform : α → Option β} {items : List α} {results : List β} {result : β}
    (found : items.mapM transform = some results) (member : result ∈ results) :
    ∃ item ∈ items, transform item = some result := by
  induction items generalizing results with
  | nil =>
      rw [List.mapM_nil] at found
      cases found
      exact absurd member (by simp)
  | cons first rest ih =>
      obtain ⟨head, others, here, later, rfl⟩ := mapM_cons_some found
      rcases List.mem_cons.mp member with same | inRest
      · exact ⟨first, by simp, by rw [here, same]⟩
      · obtain ⟨item, listed, read⟩ := ih later inRest
        exact ⟨item, by simp [listed], read⟩

theorem mapM_of_ok {Error : Type} (transform : α → Except Error β) (items : List α)
    (each : ∀ item ∈ items, ∃ result, transform item = .ok result) :
    ∃ results, items.mapM transform = .ok results ∧
      List.Forall₂ (fun item result => transform item = .ok result) items results := by
  induction items with
  | nil => exact ⟨[], rfl, .nil⟩
  | cons item rest ih =>
      obtain ⟨result, here⟩ := each item (by simp)
      obtain ⟨results, later, related⟩ := ih fun other member => each other (by simp [member])
      refine ⟨result :: results, ?_, .cons here related⟩
      rw [List.mapM_cons, here, later]
      rfl

theorem ok_of_mapM {Error : Type} {transform : α → Except Error β} {items : List α} {results : List β}
    (read : items.mapM transform = .ok results) : ∀ item ∈ items, ∃ result, transform item = .ok result := by
  induction items generalizing results with
  | nil => simp
  | cons item rest ih =>
      rw [List.mapM_cons] at read
      cases here : transform item with
      | error fault =>
          rw [here] at read
          cases read
      | ok result =>
          cases later : rest.mapM transform with
          | error fault =>
              rw [here, later] at read
              cases read
          | ok others =>
              intro other listed
              rcases List.mem_cons.mp listed with rfl | listed
              · exact ⟨result, here⟩
              · exact ih later other listed

theorem mapM_cons_ok {Error : Type} {transform : α → Except Error β} {first : α} {rest : List α}
    {results : List β} (found : (first :: rest).mapM transform = .ok results) :
    ∃ result others, transform first = .ok result ∧ rest.mapM transform = .ok others ∧
      results = result :: others := by
  rw [List.mapM_cons] at found
  cases here : transform first with
  | error failure =>
      rw [here] at found
      cases found
  | ok result =>
      cases later : rest.mapM transform with
      | error failure =>
          rw [here, later] at found
          cases found
      | ok others =>
          rw [here, later] at found
          cases found
          exact ⟨result, others, rfl, rfl, rfl⟩

theorem mapM_sublist {Error : Type} {transform : α → Except Error β} {part items : List α}
    (inside : part.Sublist items) {results : List β} (found : items.mapM transform = .ok results) :
    ∃ some, part.mapM transform = .ok some ∧ some.Sublist results := by
  induction inside generalizing results with
  | slnil => exact ⟨results, found, List.Sublist.refl _⟩
  | cons first _ ih =>
      obtain ⟨result, others, _, later, rfl⟩ := mapM_cons_ok found
      obtain ⟨some, done, within⟩ := ih later
      exact ⟨some, done, within.cons result⟩
  | cons_cons first _ ih =>
      obtain ⟨result, others, here, later, rfl⟩ := mapM_cons_ok found
      obtain ⟨some, done, within⟩ := ih later
      refine ⟨result :: some, ?_, within.cons_cons result⟩
      rw [List.mapM_cons, here, done]
      rfl

theorem exists_of_forall₂ {related : α → β → Prop} {items : List α} {others : List β}
    (paired : List.Forall₂ related items others) :
    (∀ item ∈ items, ∃ other ∈ others, related item other) ∧ ∀ other ∈ others, ∃ item ∈ items, related item other := by
  induction paired with
  | nil => exact ⟨nofun, nofun⟩
  | cons here _ ih =>
      simp only [List.forall_mem_cons, List.exists_mem_cons_iff]
      exact ⟨⟨.inl here, fun item member => .inr (ih.1 item member)⟩,
        .inl here, fun other member => .inr (ih.2 other member)⟩

theorem pairwise_of_forall₂ {related : α → β → Prop} {before : α → α → Prop} {after : β → β → Prop}
    (carries : ∀ left right first second, related left first → related right second → before left right →
      after first second) {items : List α} {others : List β} (paired : List.Forall₂ related items others)
    (ordered : items.Pairwise before) : others.Pairwise after := by
  induction paired with
  | nil => exact .nil
  | cons here rest ih =>
      obtain ⟨first, later⟩ := List.pairwise_cons.mp ordered
      refine List.pairwise_cons.mpr ⟨fun other member => ?_, ih later⟩
      obtain ⟨item, listed, same⟩ := (exists_of_forall₂ rest).2 other member
      exact carries _ _ _ _ here same (first item listed)

theorem forall₂_iff_of_related {related wanted : α → β → Prop} {property : α → Prop} {items : List α}
    {results : List β} (relates : List.Forall₂ related items results)
    (each : ∀ item result, related item result → (wanted item result ↔ property item)) :
    List.Forall₂ wanted items results ↔ ∀ item ∈ items, property item := by
  induction relates with
  | nil => simp
  | cons here _ ih => rw [List.forall₂_cons, List.forall_mem_cons, each _ _ here, ih]

theorem nodup_eraseDups [BEq α] [LawfulBEq α] : ∀ items : List α, items.eraseDups.Nodup
  | [] => by simp
  | first :: rest => by
      have shorter := List.length_filter_le (fun item => !item == first) rest
      rw [List.eraseDups_cons, List.nodup_cons, List.mem_eraseDups]
      exact ⟨by simp, nodup_eraseDups _⟩
termination_by items => items.length
decreasing_by simp only [List.length_cons]; omega

theorem mem_of_lookup [BEq α] [LawfulBEq α] {entries : List (α × β)} {key : α} {value : β}
    (found : entries.lookup key = some value) : (key, value) ∈ entries := by
  obtain ⟨front, back, rfl, -⟩ := List.lookup_eq_some_iff.mp found
  simp

theorem getElem?_set_some {items : List α} {index position : Nat} {value item : α}
    (found : (items.set index value)[position]? = some item) :
    (position = index ∧ item = value) ∨ (position ≠ index ∧ items[position]? = some item) := by
  rw [List.getElem?_set] at found
  split at found
  · rename_i same
    split at found
    · exact Or.inl ⟨same.symm, by simpa using found.symm⟩
    · contradiction
  · rename_i different
    exact Or.inr ⟨Ne.symm different, found⟩

theorem getElem?_append_of_some {items more : List α} {index : Nat} {item : α}
    (found : items[index]? = some item) : (items ++ more)[index]? = some item := by
  rw [List.getElem?_append_left (List.getElem?_eq_some_iff.mp found).1]
  exact found

theorem getElem?_concat_some {items : List α} {index : Nat} {value item : α}
    (found : (items ++ [value])[index]? = some item) :
    items[index]? = some item ∨ (index = items.length ∧ item = value) := by
  rw [List.getElem?_append] at found
  split at found
  · exact Or.inl found
  · rw [List.getElem?_singleton] at found
    split at found
    · rw [Option.some.injEq] at found
      exact Or.inr ⟨by omega, found.symm⟩
    · contradiction

theorem getElem?_append_some {items : List α} {index : Nat} {value item : α}
    (found : (items ++ [value])[index]? = some item) : items[index]? = some item ∨ item = value :=
  (getElem?_concat_some found).imp_right And.right

theorem countP_set {items : List α} {index : Nat} {old : α} (value : α) (holds : α → Bool)
    (here : items[index]? = some old) :
    (items.set index value).countP holds + (if holds old then 1 else 0) =
      items.countP holds + (if holds value then 1 else 0) := by
  induction items generalizing index with
  | nil => simp at here
  | cons first rest ih =>
      cases index with
      | zero =>
          obtain rfl : first = old := by simpa using here
          rw [List.set_cons_zero, List.countP_cons, List.countP_cons]
          omega
      | succ index =>
          have later := ih (by simpa using here)
          rw [List.set_cons_succ, List.countP_cons, List.countP_cons]
          omega

theorem eq_of_countP_le_one {items : List α} {holds : α → Bool} (atMost : items.countP holds ≤ 1)
    {left right : α} (leftMember : left ∈ items) (rightMember : right ∈ items)
    (leftHolds : holds left = true) (rightHolds : holds right = true) : left = right := by
  induction items with
  | nil => contradiction
  | cons first rest ih =>
      rw [List.countP_cons] at atMost
      have positive : ∀ item ∈ rest, holds item = true → 0 < rest.countP holds :=
        fun item member accepted => List.countP_pos_iff.mpr ⟨item, member, accepted⟩
      rcases List.mem_cons.mp leftMember with rfl | leftLater
      · rcases List.mem_cons.mp rightMember with rfl | rightLater
        · rfl
        · have count := positive right rightLater rightHolds
          rw [if_pos leftHolds] at atMost
          omega
      · rcases List.mem_cons.mp rightMember with rfl | rightLater
        · have count := positive left leftLater leftHolds
          rw [if_pos rightHolds] at atMost
          omega
        · exact ih (by omega) leftLater rightLater

theorem split_at_index {items : List α} {index : Nat} {item : α} (found : items[index]? = some item) :
    ∃ front back, items = front ++ item :: back ∧ front.length = index := by
  induction items generalizing index with
  | nil => simp at found
  | cons first rest ih =>
      cases index with
      | zero =>
          obtain rfl : first = item := by simpa using found
          exact ⟨[], rest, rfl, rfl⟩
      | succ index =>
          obtain ⟨front, back, same, here⟩ := ih (by simpa using found)
          exact ⟨first :: front, back, by simp [same], by simp [here]⟩

theorem last_separator {separator : α} {left right before after : List α} (clean : separator ∉ right)
    (other : separator ∉ after) (same : left ++ separator :: right = before ++ separator :: after) :
    left = before ∧ right = after := by
  rcases List.append_eq_append_iff.mp same with ⟨middle, rfl, rest⟩ | ⟨middle, rfl, rest⟩
  · cases middle with
    | nil => exact ⟨by simp, by simpa using rest⟩
    | cons first more =>
        obtain ⟨-, rfl⟩ := List.cons_eq_cons.mp (by simpa using rest)
        exact absurd (by simp) clean
  · cases middle with
    | nil => exact ⟨by simp, (by simpa using rest : after = right).symm⟩
    | cons first more =>
        obtain ⟨-, rfl⟩ := List.cons_eq_cons.mp (by simpa using rest)
        exact absurd (by simp) other

theorem mem_modify {items : List α} {index : Nat} {change : α → α} {item : α}
    (member : item ∈ items.modify index change) :
    item ∈ items ∨ ∃ old, items[index]? = some old ∧ item = change old := by
  obtain ⟨position, here⟩ := List.mem_iff_getElem?.mp member
  rw [List.getElem?_modify] at here
  obtain ⟨old, found, rfl⟩ := Option.map_eq_some_iff.mp here
  by_cases same : index = position
  · subst same
    exact Or.inr ⟨old, found, by simp⟩
  · exact Or.inl (List.mem_of_getElem? (by simpa [same] using found))

@[simp] theorem set_split (front back : List α) (item other : α) :
    (front ++ item :: back).set front.length other = front ++ other :: back := by
  induction front with
  | nil => rfl
  | cons first rest ih => simp [ih]

@[simp] theorem eraseIdx_split (front back : List α) (item : α) :
    (front ++ item :: back).eraseIdx front.length = front ++ back := by
  induction front with
  | nil => rfl
  | cons first rest ih => simp [ih]

theorem filter_key_eq [DecidableEq β] {key : α → β} {items : List α} {item : α}
    (distinct : (items.map key).Nodup) (member : item ∈ items) :
    items.filter (fun other => key other = key item) = [item] := by
  induction items with
  | nil => contradiction
  | cons first rest ih =>
      rw [List.map_cons, List.nodup_cons] at distinct
      rcases List.mem_cons.mp member with same | later
      · subst same
        have noOther : rest.filter (fun other => key other = key item) = [] := by
          rw [List.filter_eq_nil_iff]
          intro other otherMember same
          rw [decide_eq_true_eq] at same
          exact distinct.1 (same ▸ List.mem_map_of_mem otherMember)
        rw [List.filter_cons_of_pos (by simp), noOther]
      · have different : ¬ key first = key item := fun same =>
          distinct.1 (same ▸ List.mem_map_of_mem later)
        rw [List.filter_cons_of_neg (by simpa using different), ih distinct.2 later]

theorem filter_key_sublist [DecidableEq β] {key : α → β} {part items : List α}
    (sub : part.Sublist items) (distinct : (items.map key).Nodup) :
    items.filter (fun item => (part.map key).contains (key item)) = part := by
  induction sub with
  | slnil => rfl
  | @cons shorter rest first sub ih =>
      rw [List.map_cons, List.nodup_cons] at distinct
      rw [List.filter_cons_of_neg, ih distinct.2]
      rw [List.contains_iff_mem]
      exact fun listed => distinct.1 ((sub.map key).subset listed)
  | @cons_cons shorter rest first sub ih =>
      rw [List.map_cons, List.nodup_cons] at distinct
      rw [List.filter_cons_of_pos (by simp)]
      congr 1
      refine Eq.trans (List.filter_congr ?_) (ih distinct.2)
      intro item member
      have different : ¬ key item = key first := fun same =>
        distinct.1 (same ▸ List.mem_map_of_mem member)
      rw [List.map_cons, List.contains_cons, beq_eq_false_iff_ne.mpr different, Bool.false_or]

theorem existsUnique_part {parts : List (List α)} {items : List α} (cut : parts.flatten.Perm items)
    (distinct : items.Nodup) {item : α} (member : item ∈ items) :
    ∃! index : Nat, ∃ part, parts[index]? = some part ∧ item ∈ part := by
  obtain ⟨part, listed, here⟩ := List.mem_flatten.mp (cut.mem_iff.mpr member)
  obtain ⟨index, found⟩ := List.mem_iff_getElem?.mp listed
  obtain ⟨-, apart⟩ := List.nodup_flatten.mp (cut.nodup_iff.mpr distinct)
  refine ⟨index, ⟨part, found, here⟩, ?_⟩
  rintro other ⟨otherPart, otherFound, there⟩
  rcases Nat.lt_trichotomy other index with before | same | after
  · obtain ⟨bound, at_index⟩ := List.getElem?_eq_some_iff.mp found
    obtain ⟨otherBound, at_other⟩ := List.getElem?_eq_some_iff.mp otherFound
    have disjoint := List.pairwise_iff_getElem.mp apart other index otherBound bound before
    rw [at_index, at_other] at disjoint
    exact absurd here (disjoint there)
  · exact same
  · obtain ⟨bound, at_index⟩ := List.getElem?_eq_some_iff.mp found
    obtain ⟨otherBound, at_other⟩ := List.getElem?_eq_some_iff.mp otherFound
    have disjoint := List.pairwise_iff_getElem.mp apart index other bound otherBound after
    rw [at_index, at_other] at disjoint
    exact absurd there (disjoint here)

end ListLib
