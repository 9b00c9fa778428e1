import MulticaOS.Properties.Values

/-!
What the requests of one workspace keep: stored values fit their definitions, and no more
definitions are active than the cap allows.  A request relies on what it has read only
while it holds the lock under which it has read it.
-/

namespace MulticaOS.Properties

open LockLib RunLib TableLib

def Process.property : Process → Option Id
  | .updateRead id _ => some id
  | .updateCensus existing _ _ _ => some existing.id
  | .updateCount existing _ => some existing.id
  | .updateWrite existing _ => some existing.id
  | .setRead _ property _ => some property
  | .setWrite _ definition _ => some definition.id
  | _ => none

def Process.inWorkspace : Process → Bool
  | .createCount _ => true
  | .createInsert _ => true
  | .updateLockProperty _ _ => true
  | .updateRead _ _ => true
  | .updateCensus _ _ _ _ => true
  | .updateCount _ _ => true
  | .updateWrite _ _ => true
  | _ => false

section Statements

variable (library : Library)

/-- Every stored value is accepted against the current definition of its property. -/
def ValuesFit (tables : Tables) : Prop :=
  ∀ issue ∈ tables.issues, ∀ key value, issue.properties key = some value →
    ∃ definition, getIssueProperty tables key = some definition ∧
      accepted library definition value = true

structure Consistent (tables : Tables) : Prop where
  unique : (tables.definitions.map Property.id).Nodup
  below : ∀ definition ∈ tables.definitions, definition.id < tables.nextDefinition
  fits : ValuesFit library tables
  capped : countActiveIssueProperties tables ≤ maxActivePropertiesPerWorkspace

def RemovedUnused (tables : Tables) (existing : Property) (params : UpdateParams) : Prop :=
  ∀ issue ∈ tables.issues, ∀ value, issue.properties existing.id = some value →
    ∀ id ∈ removedOptionIDs existing.config (params.config.getD existing.config),
      value.has id = false

def Process.Relies (tables : Tables) : Process → Prop
  | .createInsert _ => countActiveIssueProperties tables < maxActivePropertiesPerWorkspace
  | .updateCensus existing params _ removed =>
      getIssueProperty tables existing.id = some existing ∧ params.archivedAt = none ∧
        removed = removedOptionIDs existing.config (params.config.getD existing.config)
  | .updateCount existing params =>
      getIssueProperty tables existing.id = some existing ∧ RemovedUnused tables existing params
  | .updateWrite existing params =>
      getIssueProperty tables existing.id = some existing ∧ RemovedUnused tables existing params ∧
        (params.archivedAt = some none → existing.archivedAt.isSome = true →
          countActiveIssueProperties tables < maxActivePropertiesPerWorkspace)
  | .setWrite _ definition value =>
      getIssueProperty tables definition.id = some definition ∧
        accepted library definition value = true
  | _ => True

structure Kept (process : Process) (before after : Tables) : Prop where
  definitions : ∀ key definition, process.property ≠ some key →
    getIssueProperty before key = some definition → getIssueProperty after key = some definition
  values : ∀ key, process.property ≠ some key → ∀ issue ∈ after.issues, ∀ value,
    issue.properties key = some value → ∃ old ∈ before.issues, old.properties key = some value
  count : process.inWorkspace = false →
    countActiveIssueProperties after ≤ countActiveIssueProperties before

end Statements

section Tables

variable {tables : Tables}

theorem Kept.refl (process : Process) (tables : Tables) : Kept process tables tables where
  definitions _ _ _ found := found
  values _ _ issue member _ held := ⟨issue, member, held⟩
  count _ := le_refl _

theorem getIssueProperty_id {key : Id} {definition : Property}
    (found : getIssueProperty tables key = some definition) : definition.id = key := by
  simpa using List.find?_some found

theorem getIssueProperty_createIssueProperty {draft : Draft} {key : Id} {definition : Property}
    (found : getIssueProperty tables key = some definition) :
    getIssueProperty (createIssueProperty tables draft) key = some definition := by
  rw [getIssueProperty, createIssueProperty, List.find?_append]
  rw [getIssueProperty] at found
  rw [found]
  rfl

theorem getIssueProperty_updateIssueProperty (id key : Id) (params : UpdateParams) :
    getIssueProperty (updateIssueProperty tables id params) key =
      (getIssueProperty tables key).map fun row => if row.id = id then row.update params else row := by
  simp only [getIssueProperty, updateIssueProperty, updateWhere, List.find?_map]
  have sameKey : ((fun row : Property => decide (row.id = key)) ∘ fun row =>
      if decide (row.id = id) = true then Property.update params row else row) =
      fun row => decide (row.id = key) := by
    funext row
    simp only [Function.comp]
    split <;> rfl
  rw [sameKey]
  simp only [decide_eq_true_eq]

theorem countActive_createIssueProperty (draft : Draft) :
    countActiveIssueProperties (createIssueProperty tables draft) =
      countActiveIssueProperties tables + 1 := by
  simp [countActiveIssueProperties, createIssueProperty, Draft.row]

theorem countActive_updateIssueProperty {existing : Property} (params : UpdateParams)
    (unique : (tables.definitions.map Property.id).Nodup)
    (found : getIssueProperty tables existing.id = some existing) :
    countActiveIssueProperties (updateIssueProperty tables existing.id params) ≤
      countActiveIssueProperties tables +
        if params.archivedAt = some none ∧ existing.archivedAt.isSome = true then 1 else 0 := by
  simp only [countActiveIssueProperties, updateIssueProperty, updateWhere]
  split
  · have others : ∀ row ∈ tables.definitions, row.id ≠ existing.id →
        (if decide (row.id = existing.id) then row.update params else row) = row := by
      intro row _ different
      rw [if_neg (by simpa using different)]
    exact countP_map_le_succ unique others
  · rename_i remains
    refine countP_map_le fun row member active => ?_
    split at active
    · rename_i same
      obtain rfl : row = existing :=
        List.inj_on_of_nodup_map unique member (List.mem_of_find?_eq_some found) (by simpa using same)
      cases given : params.archivedAt with
      | none => simpa [Property.update, given] using active
      | some archivedAt =>
          cases archivedAt with
          | some now => simp [Property.update, given] at active
          | none =>
              rw [Option.isNone_iff_eq_none, ← Option.not_isSome_iff_eq_none]
              exact fun archived => remains ⟨given, archived⟩
    · exact active

theorem removedUnused_of_census {existing : Property} {params : UpdateParams}
    (census : countIssuesUsingPropertyOptions tables
      (removedOptionIDs existing.config (params.config.getD existing.config)) existing.id = []) :
    RemovedUnused tables existing params := by
  intro issue member value held id removed
  by_contra used
  have counted := List.filter_eq_nil_iff.mp census
    (id, optionUsage tables existing.id id) (List.mem_map_of_mem (List.mem_dedup.mpr removed))
  refine counted (decide_eq_true (List.countP_pos_iff.mpr ⟨issue, member, ?_⟩))
  simpa [held] using used

theorem accepted_update {library : Library} {existing : Property} {params : UpdateParams}
    (unused : RemovedUnused tables existing params) {issue : Issue} (member : issue ∈ tables.issues)
    {value : Json} (held : issue.properties existing.id = some value)
    (fits : accepted library existing value = true) :
    accepted library (existing.update params) value = true := by
  refine accepted_config existing rfl fits fun id has isKnown => ?_
  by_contra unknown
  have removed := unused issue member value held id (mem_removedOptionIDs.mpr ⟨isKnown, unknown⟩)
  rw [has] at removed
  contradiction

end Tables

section Writes

variable {library : Library} {tables : Tables}

theorem Consistent.createIssueProperty (consistent : Consistent library tables) (draft : Draft)
    (room : countActiveIssueProperties tables < maxActivePropertiesPerWorkspace) :
    Consistent library (createIssueProperty tables draft) where
  unique := by
    simp only [Properties.createIssueProperty, List.map_append, List.nodup_append]
    refine ⟨consistent.unique, List.nodup_singleton _, ?_⟩
    rintro _ old _ new rfl
    obtain ⟨definition, member, same⟩ := List.mem_map.mp old
    have older := consistent.below definition member
    rw [same, List.mem_singleton.mp new] at older
    exact Nat.lt_irrefl _ older
  below := by
    intro definition member
    rcases List.mem_append.mp member with old | new
    · exact Nat.lt_succ_of_lt (consistent.below definition old)
    · rw [List.mem_singleton.mp new]
      exact Nat.lt_succ_self _
  fits := by
    intro issue member key value held
    obtain ⟨definition, found, fits⟩ := consistent.fits issue member key value held
    exact ⟨definition, getIssueProperty_createIssueProperty found, fits⟩
  capped := by
    rw [countActive_createIssueProperty]
    exact room

theorem Consistent.updateIssueProperty {existing : Property} {params : UpdateParams}
    (consistent : Consistent library tables)
    (found : getIssueProperty tables existing.id = some existing)
    (unused : RemovedUnused tables existing params)
    (room : params.archivedAt = some none → existing.archivedAt.isSome = true →
      countActiveIssueProperties tables < maxActivePropertiesPerWorkspace) :
    Consistent library (updateIssueProperty tables existing.id params) where
  unique := by
    have kept : ∀ row : Property, (row.update params).id = row.id := fun _ => rfl
    simp only [Properties.updateIssueProperty, map_updateWhere kept]
    exact consistent.unique
  below := by
    intro definition member
    rcases mem_updateWhere member with ⟨old, -⟩ | ⟨row, old, -, rfl⟩
    · exact consistent.below definition old
    · exact consistent.below row old
  fits := by
    intro issue member key value held
    obtain ⟨definition, current, fits⟩ := consistent.fits issue member key value held
    rw [getIssueProperty_updateIssueProperty, current]
    refine ⟨_, rfl, ?_⟩
    beta_reduce
    split
    · rename_i same
      obtain rfl : existing.id = key := same.symm.trans (getIssueProperty_id current)
      obtain rfl : existing = definition := Option.some.inj (found.symm.trans current)
      exact accepted_update unused member held fits
    · exact fits
  capped := by
    have counted := countActive_updateIssueProperty params consistent.unique found
    split at counted
    · rename_i reactivated
      have below := room reactivated.1 reactivated.2
      omega
    · have capped := consistent.capped
      omega

theorem Consistent.issues (consistent : Consistent library tables) {issues : List Issue} {next : Nat}
    (each : ∀ issue ∈ issues, ∀ key value, issue.properties key = some value →
      (∃ old ∈ tables.issues, old.properties key = some value) ∨
        ∃ definition, getIssueProperty tables key = some definition ∧
          accepted library definition value = true) :
    Consistent library { tables with issues := issues, nextIssue := next } where
  unique := consistent.unique
  below := consistent.below
  fits := by
    intro issue member key value held
    rcases each issue member key value held with ⟨old, listed, before⟩ | fits
    · exact consistent.fits old listed key value before
    · exact fits
  capped := consistent.capped

theorem set_properties {tables : Tables} {id key : Id} {value : Json} {issue : Issue}
    (member : issue ∈ (setIssuePropertyValue tables id key value).issues) {other : Id} {held : Json}
    (holds : issue.properties other = some held) :
    (other = key ∧ held = value) ∨ ∃ old ∈ tables.issues, old.properties other = some held := by
  rcases mem_updateWhere member with ⟨old, -⟩ | ⟨row, old, -, rfl⟩
  · exact Or.inr ⟨issue, old, holds⟩
  · by_cases same : other = key
    · subst same
      simp only [Issue.set, Function.update_self, Option.some.injEq] at holds
      exact Or.inl ⟨rfl, holds.symm⟩
    · simp only [Issue.set, Function.update_of_ne same] at holds
      exact Or.inr ⟨row, old, holds⟩

theorem unset_properties {tables : Tables} {id key : Id} {issue : Issue}
    (member : issue ∈ (deleteIssuePropertyValue tables id key).issues) {other : Id} {held : Json}
    (holds : issue.properties other = some held) :
    ∃ old ∈ tables.issues, old.properties other = some held := by
  rcases mem_updateWhere member with ⟨old, -⟩ | ⟨row, old, -, rfl⟩
  · exact ⟨issue, old, holds⟩
  · by_cases same : other = key
    · subst same
      simp [Issue.unset] at holds
    · simp only [Issue.unset, Function.update_of_ne same] at holds
      exact ⟨row, old, holds⟩

end Writes

section Frame

variable {library : Library} {process other : Process} {before after : Tables}

theorem RemovedUnused.frame {existing : Property} {params : UpdateParams}
    (unused : RemovedUnused before existing params)
    (values : ∀ issue ∈ after.issues, ∀ value, issue.properties existing.id = some value →
      ∃ old ∈ before.issues, old.properties existing.id = some value) :
    RemovedUnused after existing params := by
  intro issue member value held
  obtain ⟨old, listed, same⟩ := values issue member value held
  exact unused old listed value same

theorem Process.Relies.frame (relies : other.Relies library before) (kept : Kept process before after)
    (property : ∀ key, other.property = some key → process.property ≠ some key)
    (workspace : other.inWorkspace = true → process.inWorkspace = false) :
    other.Relies library after := by
  cases other with
  | createInsert draft => exact lt_of_le_of_lt (kept.count (workspace rfl)) relies
  | updateCensus existing params archived removed =>
      exact ⟨kept.definitions _ _ (property _ rfl) relies.1, relies.2⟩
  | updateCount existing params =>
      exact ⟨kept.definitions _ _ (property _ rfl) relies.1,
        relies.2.frame (kept.values _ (property _ rfl))⟩
  | updateWrite existing params =>
      obtain ⟨current, unused, room⟩ := relies
      refine ⟨kept.definitions _ _ (property _ rfl) current,
        unused.frame (kept.values _ (property _ rfl)), fun given archived => ?_⟩
      exact lt_of_le_of_lt (kept.count (workspace rfl)) (room given archived)
  | setWrite issue definition value =>
      exact ⟨kept.definitions _ _ (property _ rfl) relies.1, relies.2⟩
  | _ => trivial

end Frame

section Execution

variable {library : Library} {process next : Process} {before after : Tables} {outside : Outside}

def storesText (tables : Tables) : Process → Bool
  | .setRead _ property raw =>
      match getIssueProperty tables property with
      | some definition => definition.type ≠ .text || survives raw
      | none => true
  | _ => true

def Continues (library : Library) (process next : Process) (after : Tables) : Prop :=
  next.Relies library after ∧
    (next.finished = true ∨
      (next.property = process.property ∧ next.inWorkspace = process.inWorkspace ∧
        next.wants = none))

theorem continues_rejected (process : Process) (tables : Tables) (status : Nat) (message : String) :
    Continues library process (.rejected status message) tables := ⟨trivial, Or.inl rfl⟩

theorem continues_succeeded (process : Process) (tables : Tables) :
    Continues library process .succeeded tables := ⟨trivial, Or.inl rfl⟩

theorem continues_settleArchived {existing : Property} {params : UpdateParams}
    {archived : Option Bool} (property : process.property = some existing.id)
    (workspace : process.inWorkspace = true)
    (current : getIssueProperty before existing.id = some existing) (given : params.archivedAt = none)
    (unused : RemovedUnused before existing params) (now : Nat) :
    Continues library process (settleArchived existing params archived now) before := by
  unfold settleArchived
  split
  · exact ⟨⟨current, unused, by simp [given]⟩, Or.inr ⟨property.symm, workspace.symm, rfl⟩⟩
  · exact ⟨⟨current, unused, by simp⟩, Or.inr ⟨property.symm, workspace.symm, rfl⟩⟩
  · split
    · exact ⟨⟨current, unused⟩, Or.inr ⟨property.symm, workspace.symm, rfl⟩⟩
    · rename_i active
      exact ⟨⟨current, unused, fun _ archived => absurd archived active⟩,
        Or.inr ⟨property.symm, workspace.symm, rfl⟩⟩

structure Executes (library : Library) (process next : Process) (before after : Tables) : Prop where
  consistent : Consistent library after
  kept : Kept process before after
  continues : Continues library process next after

theorem Executes.unchanged (consistent : Consistent library before)
    (continues : Continues library process next before) :
    Executes library process next before before :=
  ⟨consistent, Kept.refl process before, continues⟩

theorem Executes.rejected (consistent : Consistent library before) (status : Nat) (message : String) :
    Executes library process (.rejected status message) before before :=
  Executes.unchanged consistent (continues_rejected _ _ _ _)

theorem executes_createInsert {draft : Draft} (consistent : Consistent library before)
    (room : countActiveIssueProperties before < maxActivePropertiesPerWorkspace) :
    Executes library (.createInsert draft) .succeeded before (createIssueProperty before draft) where
  consistent := consistent.createIssueProperty draft room
  kept := {
    definitions := fun _ _ _ found => getIssueProperty_createIssueProperty found
    values := fun _ _ issue member _ held => ⟨issue, member, held⟩
    count := by simp [Process.inWorkspace] }
  continues := continues_succeeded _ _

theorem executes_updateWrite {existing : Property} {params : UpdateParams}
    (consistent : Consistent library before)
    (relies : (Process.updateWrite existing params).Relies library before) :
    Executes library (.updateWrite existing params) .succeeded before
      (updateIssueProperty before existing.id params) where
  consistent := consistent.updateIssueProperty relies.1 relies.2.1 relies.2.2
  kept := {
    definitions := by
      intro key definition other found
      rw [getIssueProperty_updateIssueProperty, found, Option.map_some, if_neg]
      intro same
      exact other (by rw [Process.property, ← same, getIssueProperty_id found])
    values := fun _ _ issue member _ held => ⟨issue, member, held⟩
    count := by simp [Process.inWorkspace] }
  continues := continues_succeeded _ _

theorem executes_setWrite {issue : Id} {definition : Property} {value : Json}
    (consistent : Consistent library before)
    (relies : (Process.setWrite issue definition value).Relies library before) :
    Executes library (.setWrite issue definition value) .succeeded before
      (setIssuePropertyValue before issue definition.id value) where
  consistent := by
    refine consistent.issues fun row member key held holds => ?_
    rcases set_properties member holds with ⟨rfl, rfl⟩ | old
    · exact Or.inr ⟨definition, relies⟩
    · exact Or.inl old
  kept := {
    definitions := fun _ _ _ found => found
    values := by
      intro key other row member held holds
      rcases set_properties member holds with ⟨rfl, -⟩ | old
      · exact absurd rfl other
      · exact old
    count := fun _ => le_refl _ }
  continues := continues_succeeded _ _

theorem executes_deleteWrite {issue property : Id} (consistent : Consistent library before) :
    Executes library (.deleteWrite issue property) .succeeded before
      (deleteIssuePropertyValue before issue property) where
  consistent := consistent.issues fun _ member _ _ holds => Or.inl (unset_properties member holds)
  kept := {
    definitions := fun _ _ _ found => found
    values := fun _ _ _ member _ holds => unset_properties member holds
    count := fun _ => le_refl _ }
  continues := continues_succeeded _ _

theorem validateUpdate_archivedAt {newIDs : Nat → String} {existing : Property}
    {request : UpdatePropertyRequest} {params : UpdateParams}
    (valid : validateUpdate library newIDs existing request = .ok params) :
    params.archivedAt = none := by
  simp only [validateUpdate, bind, Except.bind, pure, Except.pure] at valid
  repeat' split at valid
  all_goals simp_all only [reduceCtorEq, Except.ok.injEq]
  subst valid
  rfl

theorem executes (consistent : Consistent library before) (relies : process.Relies library before)
    (stores : storesText before process = true) (running : process.wants = none)
    (executed : process.execute library before outside = (after, next)) :
    Executes library process next before after := by
  cases process with
  | createLock workspaceID draft => contradiction
  | updateLockWorkspace workspaceID id request => contradiction
  | updateLockProperty id request => contradiction
  | setLock issue property raw => contradiction
  | createCount draft =>
      simp only [Process.execute] at executed
      split at executed
      · obtain ⟨rfl, rfl⟩ := Prod.mk.inj executed
        exact Executes.rejected consistent _ _
      · rename_i room
        obtain ⟨rfl, rfl⟩ := Prod.mk.inj executed
        exact Executes.unchanged consistent ⟨not_le.mp room, Or.inr ⟨rfl, rfl, rfl⟩⟩
  | createInsert draft =>
      simp only [Process.execute] at executed
      split at executed
      · obtain ⟨rfl, rfl⟩ := Prod.mk.inj executed
        exact Executes.rejected consistent _ _
      · obtain ⟨rfl, rfl⟩ := Prod.mk.inj executed
        exact executes_createInsert consistent relies
  | updateRead id request =>
      simp only [Process.execute] at executed
      split at executed
      · obtain ⟨rfl, rfl⟩ := Prod.mk.inj executed
        exact Executes.rejected consistent _ _
      · rename_i existing found
        obtain rfl := getIssueProperty_id found
        split at executed
        · obtain ⟨rfl, rfl⟩ := Prod.mk.inj executed
          exact Executes.rejected consistent _ _
        · rename_i params valid
          have given := validateUpdate_archivedAt valid
          split at executed
          · rename_i nothingRemoved
            obtain ⟨rfl, rfl⟩ := Prod.mk.inj executed
            refine Executes.unchanged consistent
              (continues_settleArchived rfl rfl found given ?_ outside.now)
            simp [RemovedUnused, nothingRemoved]
          · obtain ⟨rfl, rfl⟩ := Prod.mk.inj executed
            exact Executes.unchanged consistent ⟨⟨found, given, rfl⟩, Or.inr ⟨rfl, rfl, rfl⟩⟩
  | updateCensus existing params archived removed =>
      obtain ⟨found, given, rfl⟩ := relies
      simp only [Process.execute] at executed
      split at executed
      · rename_i census
        obtain ⟨rfl, rfl⟩ := Prod.mk.inj executed
        exact Executes.unchanged consistent (continues_settleArchived rfl rfl found given
          (removedUnused_of_census census) outside.now)
      · obtain ⟨rfl, rfl⟩ := Prod.mk.inj executed
        exact Executes.rejected consistent _ _
  | updateCount existing params =>
      simp only [Process.execute] at executed
      split at executed
      · obtain ⟨rfl, rfl⟩ := Prod.mk.inj executed
        exact Executes.rejected consistent _ _
      · rename_i room
        obtain ⟨rfl, rfl⟩ := Prod.mk.inj executed
        exact Executes.unchanged consistent
          ⟨⟨relies.1, relies.2, fun _ _ => not_le.mp room⟩, Or.inr ⟨rfl, rfl, rfl⟩⟩
  | updateWrite existing params =>
      simp only [Process.execute] at executed
      split at executed
      · obtain ⟨rfl, rfl⟩ := Prod.mk.inj executed
        exact Executes.rejected consistent _ _
      · obtain ⟨rfl, rfl⟩ := Prod.mk.inj executed
        exact executes_updateWrite consistent relies
  | setRead issue property raw =>
      simp only [Process.execute] at executed
      split at executed
      · obtain ⟨rfl, rfl⟩ := Prod.mk.inj executed
        exact Executes.rejected consistent _ _
      · rename_i definition found
        obtain rfl := getIssueProperty_id found
        split at executed
        · obtain ⟨rfl, rfl⟩ := Prod.mk.inj executed
          exact Executes.rejected consistent _ _
        · split at executed
          · obtain ⟨rfl, rfl⟩ := Prod.mk.inj executed
            exact Executes.rejected consistent _ _
          · rename_i value valid
            obtain ⟨rfl, rfl⟩ := Prod.mk.inj executed
            refine Executes.unchanged consistent
              ⟨⟨found, accepted_stored valid fun text => ?_⟩, Or.inr ⟨rfl, rfl, rfl⟩⟩
            simpa [storesText, found, text] using stores
  | setWrite issue definition value =>
      simp only [Process.execute] at executed
      split at executed
      · obtain ⟨rfl, rfl⟩ := Prod.mk.inj executed
        exact Executes.rejected consistent _ _
      · split at executed
        · obtain ⟨rfl, rfl⟩ := Prod.mk.inj executed
          exact Executes.rejected consistent _ _
        · obtain ⟨rfl, rfl⟩ := Prod.mk.inj executed
          exact executes_setWrite consistent relies
  | deleteRead issue property =>
      simp only [Process.execute] at executed
      split at executed
      · obtain ⟨rfl, rfl⟩ := Prod.mk.inj executed
        exact Executes.rejected consistent _ _
      · obtain ⟨rfl, rfl⟩ := Prod.mk.inj executed
        exact Executes.unchanged consistent ⟨trivial, Or.inr ⟨rfl, rfl, rfl⟩⟩
  | deleteWrite issue property =>
      simp only [Process.execute] at executed
      split at executed
      · obtain ⟨rfl, rfl⟩ := Prod.mk.inj executed
        exact Executes.rejected consistent _ _
      · obtain ⟨rfl, rfl⟩ := Prod.mk.inj executed
        exact executes_deleteWrite consistent
  | succeeded =>
      obtain ⟨rfl, rfl⟩ := Prod.mk.inj executed
      exact Executes.unchanged consistent (continues_succeeded _ _)
  | rejected status message =>
      obtain ⟨rfl, rfl⟩ := Prod.mk.inj executed
      exact Executes.rejected consistent _ _

theorem execute_tables (executed : process.execute library before outside = (after, next)) :
    after = before ∨ next = .succeeded := by
  cases process <;> simp only [Process.execute] at executed
  all_goals repeat' split at executed
  all_goals
    obtain ⟨rfl, rfl⟩ := Prod.mk.inj executed
    first
    | exact Or.inl rfl
    | exact Or.inr rfl

end Execution

end MulticaOS.Properties
