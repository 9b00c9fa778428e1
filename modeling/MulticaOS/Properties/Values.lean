import MulticaOS.Properties.Requests

/-!
What `validatePropertyValue` accepts: the value it has stored, and what survives a change
of the options that the value does not use.
-/

namespace MulticaOS.Properties

open GoLib

def known (config : List PropertyOption) (id : String) : Prop := ∃ option ∈ config, option.id = id

theorem propertyOptionIDs_isSome {config : List PropertyOption} {id : String} :
    (propertyOptionIDs config id).isSome = true ↔ known config id := by
  rw [propertyOptionIDs, Option.isSome_map, List.getLast?_isSome]
  constructor
  · intro nonempty
    obtain ⟨⟨option, index⟩, member⟩ := List.exists_mem_of_ne_nil _ nonempty
    obtain ⟨listed, same⟩ := List.mem_filter.mp member
    exact ⟨option, List.fst_mem_of_mem_zipIdx listed, of_decide_eq_true same⟩
  · rintro ⟨option, member, same⟩ empty
    obtain ⟨index, bound, here⟩ := List.getElem_of_mem member
    have listed : (option, index) ∈ config.zipIdx := by
      rw [List.mem_zipIdx_iff_getElem?]
      exact List.getElem?_eq_some_iff.mpr ⟨bound, here⟩
    have kept := List.filter_eq_nil_iff.mp empty _ listed
    simp [same] at kept

theorem propertyOptionIDs_eq_none {config : List PropertyOption} {id : String} :
    propertyOptionIDs config id = none ↔ ¬ known config id := by
  rw [← propertyOptionIDs_isSome, Option.not_isSome_iff_eq_none]

theorem mem_removedOptionIDs {existing next : List PropertyOption} {id : String} :
    id ∈ removedOptionIDs existing next ↔ known existing id ∧ ¬ known next id := by
  simp only [removedOptionIDs, List.mem_map, List.mem_filter, Option.isNone_iff_eq_none,
    propertyOptionIDs_eq_none]
  constructor
  · rintro ⟨option, ⟨member, unknown⟩, rfl⟩
    exact ⟨⟨option, member, rfl⟩, unknown⟩
  · rintro ⟨⟨option, member, rfl⟩, unknown⟩
    exact ⟨option, ⟨member, unknown⟩, rfl⟩

section Values

variable {library : Library} {config : List PropertyOption}

theorem collectOptionIDs_known {done ids : List String} {items : List Json}
    (collected : collectOptionIDs library config done items = .ok ids)
    (before : ∀ id ∈ done, known config id) :
    (∀ id ∈ ids, known config id) ∧ ∀ id ∈ done, id ∈ ids := by
  induction items generalizing done with
  | nil =>
      rw [collectOptionIDs, Except.ok.injEq] at collected
      subst collected
      exact ⟨before, fun _ member => member⟩
  | cons item rest ih =>
      cases item with
      | string id =>
          rw [collectOptionIDs] at collected
          split at collected
          · contradiction
          · rename_i found
            have isKnown : known config id := by
              rw [← propertyOptionIDs_isSome, found]
              rfl
            split at collected
            · exact ih collected before
            · obtain ⟨after, kept⟩ := ih collected (by
                intro other member
                rcases List.mem_append.mp member with old | new
                · exact before other old
                · rw [List.mem_singleton.mp new]
                  exact isKnown)
              exact ⟨after, fun other member => kept other (List.mem_append_left _ member)⟩
      | _ => simp [collectOptionIDs] at collected

theorem collectOptionIDs_nonempty {ids : List String} {item : Json} {items : List Json}
    (collected : collectOptionIDs library config [] (item :: items) = .ok ids) : ids ≠ [] := by
  cases item with
  | string id =>
      rw [collectOptionIDs] at collected
      split at collected
      · contradiction
      · rename_i found
        have isKnown : known config id := by
          rw [← propertyOptionIDs_isSome, found]
          rfl
        have kept := (collectOptionIDs_known collected (by simpa using isKnown)).2 id (by simp)
        exact List.ne_nil_of_mem kept
  | _ => simp [collectOptionIDs] at collected

theorem collectOptionIDs_isOk {done : List String} {items : List Json} :
    (∃ ids, collectOptionIDs library config done items = .ok ids) ↔
      ∀ item ∈ items, ∃ id, item = .string id ∧ known config id := by
  induction items generalizing done with
  | nil => simp [collectOptionIDs]
  | cons item rest ih =>
      cases item with
      | string id =>
          cases found : propertyOptionIDs config id with
          | none =>
              have unknown := propertyOptionIDs_eq_none.mp found
              simp [collectOptionIDs, found, unknown]
          | some index =>
              have isKnown : known config id := by
                rw [← propertyOptionIDs_isSome, found]
                rfl
              simp [collectOptionIDs, found, isKnown, ih]
      | _ => simp [collectOptionIDs]

theorem mem_sortOptionIDs {ids : List String} {id : String} :
    id ∈ sortOptionIDs config ids ↔ id ∈ ids := (List.mergeSort_perm ids _).mem_iff

theorem accepted_multiSelect {definition : Property} {items : List Json}
    (type : definition.type = .multiSelect) (nonempty : items ≠ []) :
    accepted library definition (.array items) = true ↔
      ∀ item ∈ items, ∃ id, item = .string id ∧ known definition.config id := by
  obtain ⟨item, rest, rfl⟩ := List.exists_cons_of_ne_nil nonempty
  rw [← collectOptionIDs_isOk]
  simp only [accepted, validatePropertyValue, type]
  cases collected : collectOptionIDs library definition.config [] (item :: rest) with
  | error message => simp
  | ok ids => simp

theorem length_sanitizeNullBytes (text : String) : (sanitizeNullBytes text).length ≤ text.length := by
  rw [sanitizeNullBytes, String.length_ofList, ← String.length_toList]
  exact List.length_filter_le _ _

def survives : Raw → Bool
  | .value (.string text) => trimSpace text = "" || trimSpace (sanitizeNullBytes text) ≠ ""
  | _ => true

theorem accepted_stored {definition : Property} {raw : Raw} {stored : Json}
    (valid : validatePropertyValue library definition raw = .ok stored)
    (kept : definition.type = .text → survives raw = true) :
    accepted library definition stored = true := by
  cases raw with
  | missing => simp [validatePropertyValue] at valid
  | invalid message => simp [validatePropertyValue] at valid
  | value json =>
      cases type : definition.type with
      | text =>
          cases json with
          | string text =>
              simp only [validatePropertyValue, type] at valid
              split at valid
              · contradiction
              · rename_i nonblank
                split at valid
                · contradiction
                · rename_i short
                  obtain rfl := Except.ok.inj valid
                  have survivor := kept type
                  simp only [survives, nonblank, decide_false, Bool.false_or, ne_eq,
                    decide_not, Bool.not_eq_true', decide_eq_false_iff_not] at survivor
                  have length := length_sanitizeNullBytes text
                  simp only [accepted, validatePropertyValue, type, survivor, if_false]
                  rw [if_neg (by omega)]
          | _ => simp [validatePropertyValue, type] at valid
      | url =>
          cases json with
          | string text =>
              simp only [validatePropertyValue, type] at valid
              split at valid
              · contradiction
              · rename_i short
                split at valid
                · rename_i scheme host parsed
                  split at valid
                  · rename_i web
                    obtain rfl := Except.ok.inj valid
                    simp [accepted, validatePropertyValue, type, trimSpace_trimSpace, short, parsed, web]
                  · contradiction
                · contradiction
          | _ => simp [validatePropertyValue, type] at valid
      | number =>
          cases json with
          | number value =>
              simp only [validatePropertyValue, type] at valid
              obtain rfl := Except.ok.inj valid
              simp [accepted, validatePropertyValue, type]
          | _ => simp [validatePropertyValue, type] at valid
      | checkbox =>
          cases json with
          | bool value =>
              simp only [validatePropertyValue, type] at valid
              obtain rfl := Except.ok.inj valid
              simp [accepted, validatePropertyValue, type]
          | _ => simp [validatePropertyValue, type] at valid
      | date =>
          cases json with
          | string text =>
              simp only [validatePropertyValue, type] at valid
              split at valid
              · rename_i date parsed
                obtain rfl := Except.ok.inj valid
                simp [accepted, validatePropertyValue, type, parsed]
              · contradiction
          | _ => simp [validatePropertyValue, type] at valid
      | select =>
          cases json with
          | string id =>
              simp only [validatePropertyValue, type] at valid
              split at valid
              · rename_i index found
                obtain rfl := Except.ok.inj valid
                simp [accepted, validatePropertyValue, type, found]
              · contradiction
          | _ => simp [validatePropertyValue, type] at valid
      | multiSelect =>
          cases json with
          | array items =>
              cases items with
              | nil => simp [validatePropertyValue, type] at valid
              | cons item items =>
                  simp only [validatePropertyValue, type] at valid
                  split at valid
                  · contradiction
                  · rename_i ids collected
                    obtain rfl := Except.ok.inj valid
                    have listed := (collectOptionIDs_known collected (by simp)).1
                    obtain ⟨first, member⟩ := List.exists_mem_of_ne_nil _
                      (collectOptionIDs_nonempty collected)
                    refine (accepted_multiSelect type ?_).mpr ?_
                    · simpa using List.ne_nil_of_mem (mem_sortOptionIDs.mpr member)
                    · intro item inside
                      obtain ⟨id, there, rfl⟩ := List.mem_map.mp inside
                      exact ⟨id, rfl, listed id (mem_sortOptionIDs.mp there)⟩
          | _ => simp [validatePropertyValue, type] at valid

theorem accepted_config (old : Property) {new : Property} {value : Json} (sameType : new.type = old.type)
    (fits : accepted library old value = true)
    (kept : ∀ id, value.has id = true → known old.config id → known new.config id) :
    accepted library new value = true := by
  cases type : old.type with
  | select =>
      cases value with
      | string id =>
          simp only [accepted, validatePropertyValue, type] at fits
          cases found : propertyOptionIDs old.config id with
          | none => simp [found] at fits
          | some index =>
              have isKnown := kept id (by simp [Json.has])
                (propertyOptionIDs_isSome.mp (by rw [found]; rfl))
              obtain ⟨position, found⟩ := Option.isSome_iff_exists.mp
                (propertyOptionIDs_isSome.mpr isKnown)
              simp [accepted, validatePropertyValue, sameType, type, found]
      | _ => simp [accepted, validatePropertyValue, type] at fits
  | multiSelect =>
      cases value with
      | array items =>
          have nonempty : items ≠ [] := by
            rintro rfl
            simp [accepted, validatePropertyValue, type] at fits
          rw [accepted_multiSelect type nonempty] at fits
          rw [accepted_multiSelect (sameType.trans type) nonempty]
          intro item member
          obtain ⟨id, rfl, isKnown⟩ := fits item member
          exact ⟨id, rfl, kept id (List.any_eq_true.mpr ⟨_, member, by simp⟩) isKnown⟩
      | _ => simp [accepted, validatePropertyValue, type] at fits
  | _ =>
      rw [← fits]
      cases value <;> simp only [accepted, validatePropertyValue, sameType, type]

end Values

end MulticaOS.Properties
