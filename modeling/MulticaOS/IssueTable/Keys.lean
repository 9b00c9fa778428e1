import MulticaOS.IssueTable.Headers

/-!
The key of a group: the headers make it of the value that they count under, and a request
for rows turns it back into a predicate that is true of the issues with that value.
-/

namespace MulticaOS.IssueTable

open GoLib
open Properties (Json)

variable {Id : Type}

/-- What the code relies on for the texts of UUIDs: they are read back, are free of white
space, and the words that stand for a missing value are none of them. -/
structure CanonicalIDs (library : Library Id) : Prop where
  parse : ∀ id, library.parseUUID (library.uuidToString id) = some id
  free : ∀ id, ∀ char ∈ (library.uuidToString id).toList, isSpace char = false
  words : ∀ word ∈ ["none", "__no_project__", "__no_parent__"], library.parseUUID word = none

def Issue.assigned (issue : Issue Id) : Prop := issue.assigneeType.isSome = issue.assigneeID.isSome

def ResolvedGroup.base : ResolvedGroup Id → ResolvedGroup Id
  | .compound primary _ _ => primary
  | group => group

inductive GroupedValue (library : Library Id) : ResolvedGroup Id → String → Prop where
  | status (status : Status) : GroupedValue library .status status.name
  | unassigned : GroupedValue library .assignee "__unassigned__"
  | assignee (type : ActorType) (id : Id) :
      GroupedValue library .assignee (type.name ++ ":" ++ library.uuidToString id)
  | noProject : GroupedValue library .project "__no_project__"
  | project (id : Id) : GroupedValue library .project (library.uuidToString id)
  | noParent : GroupedValue library .parent "__no_parent__"
  | parent (id : Id) : GroupedValue library .parent (library.uuidToString id)
  | unset (id : Id) (type : GroupedType) : GroupedValue library (.property id type) "unset:"
  | option (id : Id) (activeOptions : List String) (value : String) (active : value ∈ activeOptions) :
      GroupedValue library (.property id (.select activeOptions)) ("value:" ++ value)
  | unavailable (id : Id) (activeOptions : List String) (value : String)
      (inactive : value = "" ∨ value ∉ activeOptions) :
      GroupedValue library (.property id (.select activeOptions)) ("unavailable:" ++ value)
  | checked (id : Id) (value : Bool) :
      GroupedValue library (.property id .checkbox) ("value:" ++ if value then "true" else "false")
  | uncheckable (id : Id) : GroupedValue library (.property id .checkbox) "unavailable:"

/-- The bag holds the empty string, which is no active option.  The headers count such an issue
as unavailable, and no predicate is true of it. -/
def ResolvedGroup.strays (group : ResolvedGroup Id) (issue : Issue Id) : Bool :=
  match group with
  | .property id (.select activeOptions) =>
      match issue.properties id with
      | some (.string value) => value = "" && value ∉ activeOptions
      | _ => false
  | _ => false

section Values

variable {library : Library Id}

theorem statusNamed_name (status : Status) : statusNamed status.name = some status := by
  cases status <;> decide

theorem describe_status (status : Status) (parent : Option ParentRef) :
    (.status : ResolvedGroup Id).describe library status.name parent =
      .ok ("status:" ++ status.name, { kind := "status", status := status.name }) := by
  rw [ResolvedGroup.describe, statusNamed_name]

theorem predicate_status [DecidableEq Id] (status : Status) :
    (.status : ResolvedGroup Id).predicate library ("status:" ++ status.name) =
      .ok fun issue => issue.status = status := by
  rw [ResolvedGroup.predicate, cutPrefix_append, Option.bind_some, statusNamed_name]

theorem isIssueActorType_name (type : ActorType) : isIssueActorType type.name = some type := by
  cases type <;> decide

theorem cut_actor (type : ActorType) (id : String) : cut ":" (type.name ++ ":" ++ id) = some (type.name, id) := by
  refine cut_append rfl ?_
  cases type <;> decide

theorem expression_grouped {group : ResolvedGroup Id} {issue : Issue Id} (assigned : issue.assigned)
    (plain : group.base = group) (grouped : group ≠ .ungrouped) :
    GroupedValue library group (group.expression library issue) := by
  cases group with
  | ungrouped => contradiction
  | compound primary visible filtered =>
      simp only [ResolvedGroup.base] at plain
      exact absurd (congrArg sizeOf plain) (by simp; omega)
  | status => exact .status issue.status
  | assignee =>
      rw [Issue.assigned] at assigned
      rw [ResolvedGroup.expression]
      cases type : issue.assigneeType <;> cases id : issue.assigneeID <;> simp [type, id] at assigned
      · exact .unassigned
      · exact .assignee _ _
  | project =>
      rw [ResolvedGroup.expression]
      cases issue.projectID with
      | none => exact .noProject
      | some id => exact .project id
  | parent =>
      rw [ResolvedGroup.expression]
      cases issue.parentIssueID with
      | none => exact .noParent
      | some id => exact .parent id
  | property id type =>
      cases type with
      | select activeOptions =>
          rw [ResolvedGroup.expression]
          split
          · exact .unset id _
          · split
            · rename_i value _ active
              exact .option id _ value active
            · rename_i value _ inactive
              exact .unavailable id _ value (.inr inactive)
          · exact .unavailable id _ "" (.inl rfl)
      | checkbox =>
          rw [ResolvedGroup.expression]
          split
          · exact .unset id _
          · exact .checked id true
          · exact .checked id false
          · exact .uncheckable id

end Values

/-! Texts that stand for an id or for none, and values of a property. -/

section Texts

variable {library : Library Id}

theorem CanonicalIDs.injective (ids : CanonicalIDs library) {left right : Id}
    (same : library.uuidToString left = library.uuidToString right) : left = right := by
  have parsed := congrArg library.parseUUID same
  rw [ids.parse, ids.parse] at parsed
  exact Option.some.inj parsed

theorem CanonicalIDs.ne_word (ids : CanonicalIDs library) (id : Id) {word : String}
    (listed : word ∈ ["none", "__no_project__", "__no_parent__"]) : library.uuidToString id ≠ word := by
  intro same
  have parsed := ids.parse id
  rw [same, ids.words word listed] at parsed
  contradiction

theorem CanonicalIDs.absent_iff (ids : CanonicalIDs library) {word : String}
    (listed : word ∈ ["none", "__no_project__", "__no_parent__"]) (given : Option Id) :
    (given.map library.uuidToString).getD word = word ↔ given = none := by
  cases given with
  | none => simp
  | some id => simpa using ids.ne_word id listed

theorem CanonicalIDs.present_iff (ids : CanonicalIDs library) {word : String}
    (listed : word ∈ ["none", "__no_project__", "__no_parent__"]) (given : Option Id) (id : Id) :
    (given.map library.uuidToString).getD word = library.uuidToString id ↔ given = some id := by
  cases given with
  | none => simpa using (ids.ne_word id listed).symm
  | some other => simpa using ⟨ids.injective, fun same => same ▸ rfl⟩

theorem actor_inj {type other : ActorType} {id otherID : String}
    (same : type.name ++ ":" ++ id = other.name ++ ":" ++ otherID) : type = other ∧ id = otherID := by
  have parts := congrArg (cut ":") same
  rw [cut_actor, cut_actor, Option.some.injEq, Prod.mk.injEq] at parts
  have types := congrArg isIssueActorType parts.1
  rw [isIssueActorType_name, isIssueActorType_name] at types
  exact ⟨Option.some.inj types, parts.2⟩

theorem actor_ne {word : String} (whole : cut ":" word = none) (type : ActorType) (id : String) :
    type.name ++ ":" ++ id ≠ word := by
  intro same
  rw [← same, cut_actor] at whole
  contradiction

def bagState : GroupedType → Option Json → String × String
  | _, none => ("unset", "")
  | .select activeOptions, some (.string value) =>
      (if value ∈ activeOptions then "value" else "unavailable", value)
  | .checkbox, some (.bool value) => ("value", if value then "true" else "false")
  | _, some _ => ("unavailable", "")

theorem cut_state {state : String} (free : ':' ∉ state.toList) (value : String) :
    cut ":" (state ++ ":" ++ value) = some (state, value) :=
  cut_append rfl free

theorem expression_property (id : Id) (type : GroupedType) (issue : Issue Id) :
    (ResolvedGroup.property id type).expression library issue =
      (bagState type (issue.properties id)).1 ++ ":" ++ (bagState type (issue.properties id)).2 := by
  cases type with
  | select activeOptions =>
      rw [ResolvedGroup.expression]
      cases issue.properties id with
      | none => rfl
      | some held =>
          cases held with
          | string value =>
              dsimp only [bagState]
              split <;> rfl
          | _ => rfl
  | checkbox =>
      rw [ResolvedGroup.expression]
      cases issue.properties id with
      | none => rfl
      | some held =>
          cases held with
          | bool value => cases value <;> rfl
          | _ => rfl

theorem bagState_free (type : GroupedType) (held : Option Json) : ':' ∉ (bagState type held).1.toList := by
  rw [bagState.eq_def]
  split
  · decide
  · dsimp only
    split <;> decide
  · dsimp only
    decide
  · decide

theorem expression_property_iff {id : Id} {type : GroupedType} {issue : Issue Id} {state value : String}
    (free : ':' ∉ state.toList) :
    (ResolvedGroup.property id type).expression library issue = state ++ ":" ++ value ↔
      bagState type (issue.properties id) = (state, value) := by
  rw [expression_property]
  constructor
  · intro same
    have parts := congrArg (cut ":") same
    rw [cut_state (bagState_free type _), cut_state free] at parts
    exact Option.some.inj parts
  · intro same
    rw [same]

end Texts

/-- The code reads the key as it is written, and its predicate is true of the issues of the
value, strays apart. -/
structure Keyed [DecidableEq Id] (library : Library Id) (group : ResolvedGroup Id) (value key : String) :
    Prop where
  free : ∀ char ∈ key.toList, isSpace char = false
  nonempty : key ≠ ""
  selects : ∃ predicate, group.predicate library key = .ok predicate ∧
    ∀ issue, issue.assigned → predicate issue =
      (decide (group.expression library issue = value) && !group.strays issue)

theorem Keyed.trimmed [DecidableEq Id] {library : Library Id} {group : ResolvedGroup Id} {value key : String}
    (keyed : Keyed library group value key) : trimSpace key = key :=
  trimSpace_of_free keyed.free

theorem encode_free (text : String) : ∀ char ∈ (Base64Lib.encode text).toList, isSpace char = false := by
  have each : ∀ code : Fin 64, isSpace (Base64Lib.digit code) = false := by decide
  intro char member
  obtain ⟨code, small, rfl⟩ := Base64Lib.mem_encode member
  exact each ⟨code, small⟩

theorem dense_of_all {text : String} (all : text.toList.all (fun char => !isSpace char) = true) :
    ∀ char ∈ text.toList, isSpace char = false := by
  intro char member
  simpa using List.all_eq_true.mp all char member

theorem append_ne_empty {lead text : String} (nonempty : lead ≠ "") : lead ++ text ≠ "" := by
  intro empty
  exact nonempty (String.append_eq_empty_iff.mp empty).1

def propertyKey (library : Library Id) (id : Id) (state value : String) : String :=
  "property:" ++ library.uuidToString id ++ ":" ++ state ++ ":" ++ Base64Lib.encode value

section Keys

variable [DecidableEq Id] {library : Library Id}

theorem predicate_propertyKey {id : Id} (type : GroupedType) {state : String}
    (free : ':' ∉ state.toList) (value : String) :
    (ResolvedGroup.property id type).predicate library (propertyKey library id state value) =
      propertyPredicate id type state value := by
  have shape : propertyKey library id state value =
      ("property:" ++ library.uuidToString id ++ ":") ++ (state ++ ":" ++ Base64Lib.encode value) := by
    simp [propertyKey, String.append_assoc]
  rw [ResolvedGroup.predicate, shape, cutPrefix_append, Option.bind_some, cut_state free]
  dsimp only
  rw [Base64Lib.decode_encode]

theorem keyed_property (ids : CanonicalIDs library) {id : Id} {type : GroupedType} {state value : String}
    {predicate : Issue Id → Bool} (free : ':' ∉ state.toList)
    (dense : ∀ char ∈ state.toList, isSpace char = false)
    (compiled : propertyPredicate id type state value = .ok predicate)
    (selects : ∀ issue, predicate issue =
      (decide (bagState type (issue.properties id) = (state, value)) &&
        !(ResolvedGroup.property id type).strays issue)) :
    Keyed library (.property id type) (state ++ ":" ++ value) (propertyKey library id state value) := by
  refine ⟨fun char member => ?_, ?_, predicate, ?_, fun issue _ => ?_⟩
  · simp only [propertyKey, String.toList_append, List.mem_append] at member
    rcases member with ((((lead | inID) | colon) | inState) | colon) | encoded
    · exact (dense_of_all (by decide) : ∀ char ∈ "property:".toList, isSpace char = false) char lead
    · exact ids.free id char inID
    · exact (dense_of_all (by decide) : ∀ char ∈ ":".toList, isSpace char = false) char colon
    · exact dense char inState
    · exact (dense_of_all (by decide) : ∀ char ∈ ":".toList, isSpace char = false) char colon
    · exact encode_free value char encoded
  · simp only [propertyKey, String.append_assoc]
    exact append_ne_empty (by decide)
  · rw [predicate_propertyKey type free, compiled]
  · rw [selects issue, Bool.eq_iff_iff]
    simp only [Bool.and_eq_true, decide_eq_true_eq, expression_property_iff free]

omit [DecidableEq Id] in
theorem unset_selects (id : Id) (type : GroupedType) (issue : Issue Id) :
    (issue.properties id).isNone = (decide (bagState type (issue.properties id) = ("unset", "")) &&
      !(ResolvedGroup.property id type).strays issue) := by
  cases type with
  | select activeOptions =>
      cases held : issue.properties id with
      | none => simp [bagState, ResolvedGroup.strays, held]
      | some value =>
          cases value with
          | string text => by_cases active : text ∈ activeOptions <;> simp [bagState, active]
          | _ => simp [bagState]
  | checkbox =>
      cases held : issue.properties id with
      | none => simp [bagState, ResolvedGroup.strays]
      | some value => cases value <;> simp [bagState]

theorem keyed_unset (ids : CanonicalIDs library) (id : Id) (type : GroupedType) :
    Keyed library (.property id type) "unset:" (propertyKey library id "unset" "") := by
  have compiled : propertyPredicate id type "unset" "" =
      .ok fun issue : Issue Id => (issue.properties id).isNone := by
    cases type <;> rfl
  exact keyed_property ids (by decide) (dense_of_all (by decide)) compiled (unset_selects id type)

theorem keyed_option (ids : CanonicalIDs library) (id : Id) {activeOptions : List String} {value : String}
    (active : value ∈ activeOptions) :
    Keyed library (.property id (.select activeOptions)) ("value" ++ ":" ++ value)
      (propertyKey library id "value" value) := by
  refine keyed_property ids (by decide) (dense_of_all (by decide)) (if_pos active) fun issue => ?_
  cases held : issue.properties id with
  | none => simp [bagState]
  | some holds =>
      cases holds with
      | string text =>
          by_cases isActive : text ∈ activeOptions
          · simp [bagState, ResolvedGroup.strays, held, isActive]
          · have different : text ≠ value := fun same => isActive (same ▸ active)
            simp [bagState, isActive, different]
      | _ => simp [bagState]

theorem keyed_unavailable (ids : CanonicalIDs library) (id : Id) {activeOptions : List String}
    {value : String} (inactive : value = "" ∨ value ∉ activeOptions) :
    Keyed library (.property id (.select activeOptions)) ("unavailable" ++ ":" ++ value)
      (propertyKey library id "unavailable" value) := by
  refine keyed_property ids (by decide) (dense_of_all (by decide)) rfl fun issue => ?_
  cases held : issue.properties id with
  | none => simp [bagState]
  | some holds =>
      cases holds with
      | string text =>
          by_cases isActive : text ∈ activeOptions
          · have kept : text = value → value = "" := fun same =>
              inactive.resolve_right fun outside => outside (same ▸ isActive)
            simpa [bagState, isActive, imp.swap] using kept
          · by_cases same : text = value
            · simp [bagState, ResolvedGroup.strays, held, isActive, ← same]
            · simp [bagState, isActive, same]
      | _ => simp [bagState, ResolvedGroup.strays, held, eq_comm]

theorem keyed_checkbox (ids : CanonicalIDs library) (id : Id) (checked : Bool) :
    Keyed library (.property id .checkbox) ("value" ++ ":" ++ if checked then "true" else "false")
      (propertyKey library id "value" (if checked then "true" else "false")) := by
  refine keyed_property ids (by decide) (dense_of_all (by decide)) (if_pos (by cases checked <;> simp)) fun issue => ?_
  cases held : issue.properties id with
  | none => simp [bagState]
  | some holds =>
      cases holds with
      | bool value => simp [bagState, ResolvedGroup.strays]
      | _ => simp [bagState]

theorem keyed_uncheckable (ids : CanonicalIDs library) (id : Id) :
    Keyed library (.property id .checkbox) "unavailable:" (propertyKey library id "unavailable" "") := by
  change Keyed library _ ("unavailable" ++ ":" ++ "") _
  refine keyed_property ids (by decide) (dense_of_all (by decide)) rfl fun issue => ?_
  cases held : issue.properties id with
  | none => simp [bagState]
  | some holds => cases holds <;> simp [bagState, ResolvedGroup.strays]

theorem keyed_plain {group : ResolvedGroup Id} {lead rest value : String}
    (predicate : Issue Id → Bool) (leading : lead ≠ "")
    (dense : ∀ char ∈ lead.toList, isSpace char = false) (free : ∀ char ∈ rest.toList, isSpace char = false)
    (compiled : group.predicate library (lead ++ rest) = .ok predicate)
    (selects : ∀ issue, issue.assigned → (predicate issue = true ↔ group.expression library issue = value))
    (noStrays : ∀ issue, group.strays issue = false) : Keyed library group value (lead ++ rest) := by
  refine ⟨fun char member => ?_, append_ne_empty leading, predicate, compiled, fun issue assigned => ?_⟩
  · rcases List.mem_append.mp (String.toList_append ▸ member) with inLead | inRest
    · exact dense char inLead
    · exact free char inRest
  · rw [noStrays, Bool.not_false, Bool.and_true, Bool.eq_iff_iff, decide_eq_true_eq]
    exact selects issue assigned

theorem keyed_status (status : Status) :
    Keyed library (.status : ResolvedGroup Id) status.name ("status:" ++ status.name) := by
  refine keyed_plain (fun issue => decide (issue.status = status)) (by decide) (dense_of_all (by decide))
    (dense_of_all (by cases status <;> decide)) (predicate_status status) (fun issue _ => ?_) (fun _ => rfl)
  rw [decide_eq_true_eq, ResolvedGroup.expression]
  constructor
  · exact congrArg Status.name
  · intro same
    have named := congrArg statusNamed same
    rw [statusNamed_name, statusNamed_name] at named
    exact Option.some.inj named

theorem keyed_unassigned :
    Keyed library (.assignee : ResolvedGroup Id) "__unassigned__" ("assignee:" ++ "unassigned") := by
  refine keyed_plain _ (by decide) (dense_of_all (by decide)) (dense_of_all (by decide))
    (by rw [ResolvedGroup.predicate, cutPrefix_append]; rfl)
    (fun issue assigned => ?_) (fun _ => rfl)
  rw [ResolvedGroup.expression]
  rw [Issue.assigned] at assigned
  cases type : issue.assigneeType <;> cases id : issue.assigneeID <;> simp [type, id] at assigned ⊢
  exact actor_ne (by decide) _ _

theorem keyed_assignee (ids : CanonicalIDs library) (type : ActorType) (id : Id) :
    Keyed library .assignee (type.name ++ ":" ++ library.uuidToString id)
      ("assignee:" ++ (type.name ++ ":" ++ library.uuidToString id)) := by
  refine keyed_plain (fun issue =>
      decide (issue.assigneeType = some type) && decide (issue.assigneeID = some id))
    (by decide) (dense_of_all (by decide)) (fun char member => ?_) ?_ (fun issue assigned => ?_) (fun _ => rfl)
  · simp only [String.toList_append, List.mem_append] at member
    rcases member with (inType | colon) | inID
    · exact dense_of_all (by cases type <;> decide) char inType
    · exact (dense_of_all (by decide) : ∀ char ∈ ":".toList, isSpace char = false) char colon
    · exact ids.free id char inID
  · rw [ResolvedGroup.predicate, cutPrefix_append]
    dsimp only
    rw [if_neg (actor_ne (by decide) type _), cut_actor]
    dsimp only
    rw [isIssueActorType_name, ids.parse]
  · rw [ResolvedGroup.expression]
    rw [Issue.assigned] at assigned
    cases hasType : issue.assigneeType <;> cases hasID : issue.assigneeID <;>
      simp [hasType, hasID] at assigned ⊢
    · exact (actor_ne (by decide) type _).symm
    · constructor
      · rintro ⟨rfl, rfl⟩
        rfl
      · intro same
        obtain ⟨sameType, sameID⟩ := actor_inj same
        exact ⟨sameType, ids.injective sameID⟩

theorem keyed_reference (ids : CanonicalIDs library) {group : ResolvedGroup Id} {lead missing : String}
    (field : Issue Id → Option Id) (leading : lead ≠ "") (dense : ∀ char ∈ lead.toList, isSpace char = false)
    (listed : missing ∈ ["none", "__no_project__", "__no_parent__"])
    (expressed : ∀ issue, group.expression library issue =
      ((field issue).map library.uuidToString).getD missing)
    (compiled : ∀ raw, group.predicate library (lead ++ raw) =
      if raw = "none" then .ok fun issue => (field issue).isNone
      else
        match library.parseUUID raw with
        | none => .error invalidGroupKey
        | some id => .ok fun issue => field issue = some id)
    (noStrays : ∀ issue, group.strays issue = false) :
    Keyed library group missing (lead ++ "none") ∧
      ∀ id, Keyed library group (library.uuidToString id) (lead ++ library.uuidToString id) := by
  constructor
  · refine keyed_plain _ leading dense (dense_of_all (by decide)) ((compiled "none").trans (if_pos rfl))
      (fun issue _ => ?_) noStrays
    rw [expressed, ids.absent_iff listed, Option.isNone_iff_eq_none]
  · intro id
    refine keyed_plain (fun issue => decide (field issue = some id)) leading dense (ids.free id) ?_
      (fun issue _ => ?_) noStrays
    · rw [compiled, if_neg (ids.ne_word id (by simp)), ids.parse]
    · rw [expressed, ids.present_iff listed, decide_eq_true_eq]

theorem keyed_project (ids : CanonicalIDs library) :
    Keyed library (.project : ResolvedGroup Id) "__no_project__" ("project:" ++ "none") ∧
      ∀ id, Keyed library .project (library.uuidToString id) ("project:" ++ library.uuidToString id) := by
  refine keyed_reference ids Issue.projectID (by decide) (dense_of_all (by decide)) (by simp) (fun _ => rfl)
    (fun raw => ?_) (fun _ => rfl)
  rw [ResolvedGroup.predicate, cutPrefix_append] <;> rfl

theorem keyed_parent (ids : CanonicalIDs library) :
    Keyed library (.parent : ResolvedGroup Id) "__no_parent__" ("parent:" ++ "none") ∧
      ∀ id, Keyed library .parent (library.uuidToString id) ("parent:" ++ library.uuidToString id) := by
  refine keyed_reference ids Issue.parentIssueID (by decide) (dense_of_all (by decide)) (by simp)
    (fun _ => rfl) (fun raw => ?_) (fun _ => rfl)
  rw [ResolvedGroup.predicate, cutPrefix_append] <;> rfl

theorem describe_keyed (ids : CanonicalIDs library) {group : ResolvedGroup Id} {value : String}
    (grouped : GroupedValue library group value) (parent : Option ParentRef) :
    ∃ key shown, group.describe library value parent = .ok (key, shown) ∧
      Keyed library group value key := by
  cases grouped with
  | status status => exact ⟨_, _, describe_status status parent, keyed_status status⟩
  | unassigned => exact ⟨_, _, rfl, keyed_unassigned⟩
  | assignee type id =>
      refine ⟨_, { kind := "assignee", actor := some (type.name, library.uuidToString id) }, ?_,
        keyed_assignee ids type id⟩
      rw [ResolvedGroup.describe, if_neg (actor_ne (by decide) type _), cut_actor]
      dsimp only
      rw [isIssueActorType_name, ids.parse, if_neg (by simp)]
  | noProject => exact ⟨_, _, rfl, (keyed_project ids).1⟩
  | project id =>
      refine ⟨_, { kind := "project", projectID := some (library.uuidToString id) }, ?_, (keyed_project ids).2 id⟩
      rw [ResolvedGroup.describe, if_neg (ids.ne_word id (by simp)), ids.parse, if_neg (by simp)]
  | noParent => exact ⟨_, _, rfl, (keyed_parent ids).1⟩
  | parent id =>
      obtain ⟨shown, described⟩ : ∃ shown, (.parent : ResolvedGroup Id).describe library
          (library.uuidToString id) parent = .ok ("parent:" ++ library.uuidToString id, shown) := by
        rw [ResolvedGroup.describe, if_neg (ids.ne_word id (by simp)), ids.parse, if_neg (by simp)]
        exact ⟨_, rfl⟩
      exact ⟨_, shown, described, (keyed_parent ids).2 id⟩
  | unset id type => exact ⟨_, _, rfl, keyed_unset ids id type⟩
  | option id activeOptions value active =>
      obtain ⟨shown, described⟩ : ∃ shown, (ResolvedGroup.property id (.select activeOptions)).describe
          library ("value" ++ ":" ++ value) parent = .ok (propertyKey library id "value" value, shown) := by
        rw [ResolvedGroup.describe, cut_state (by decide)]
        exact ⟨_, rfl⟩
      exact ⟨_, shown, described, keyed_option ids id active⟩
  | unavailable id activeOptions value inactive =>
      obtain ⟨shown, described⟩ : ∃ shown, (ResolvedGroup.property id (.select activeOptions)).describe
          library ("unavailable" ++ ":" ++ value) parent = .ok (propertyKey library id "unavailable" value, shown) := by
        rw [ResolvedGroup.describe, cut_state (by decide)]
        exact ⟨_, rfl⟩
      exact ⟨_, shown, described, keyed_unavailable ids id inactive⟩
  | checked id value =>
      obtain ⟨shown, described⟩ : ∃ shown, (ResolvedGroup.property id .checkbox).describe library
          ("value" ++ ":" ++ if value then "true" else "false") parent =
            .ok (propertyKey library id "value" (if value then "true" else "false"), shown) := by
        rw [ResolvedGroup.describe, cut_state (by decide)]
        cases value <;> exact ⟨_, rfl⟩
      exact ⟨_, shown, described, keyed_checkbox ids id value⟩
  | uncheckable id => exact ⟨_, _, rfl, keyed_uncheckable ids id⟩

end Keys

def Spells (lead missing word value key : String) : Prop :=
  (value = missing ∧ key = lead ++ word) ∨ (value ≠ word ∧ key = lead ++ value)

theorem Spells.injective {lead missing word left right key : String}
    (spellsLeft : Spells lead missing word left key) (spellsRight : Spells lead missing word right key) :
    left = right := by
  rcases spellsLeft with ⟨leftMissing, leftKey⟩ | ⟨leftOther, leftKey⟩
  · rcases spellsRight with ⟨rightMissing, -⟩ | ⟨rightOther, rightKey⟩
    · exact leftMissing.trans rightMissing.symm
    · exact absurd ((String.append_right_inj _).mp (rightKey.symm.trans leftKey)) rightOther
  · rcases spellsRight with ⟨-, rightKey⟩ | ⟨-, rightKey⟩
    · exact absurd ((String.append_right_inj _).mp (leftKey.symm.trans rightKey)) leftOther
    · exact (String.append_right_inj _).mp (leftKey.symm.trans rightKey)

section Injectivity

variable {library : Library Id} {value key : String} {shown : GroupValue} {parent : Option ParentRef}

theorem assignee_spells
    (described : (.assignee : ResolvedGroup Id).describe library value parent = .ok (key, shown)) :
    Spells "assignee:" "__unassigned__" "unassigned" value key := by
  rw [ResolvedGroup.describe] at described
  split at described
  · rename_i missing
    cases described
    exact Or.inl ⟨missing, by decide⟩
  · split at described
    · cases described
    · rename_i parts
      split at described
      · cases described
      · cases described
        refine Or.inr ⟨?_, rfl⟩
        rintro rfl
        rw [show cut ":" "unassigned" = none by decide] at parts
        cases parts

theorem reference_spells (ids : CanonicalIDs library) {lead missing unset : String}
    {absent present : GroupValue} (spelled : unset = lead ++ "none")
    (described : (if value = missing then Except.ok (unset, absent)
      else if (library.parseUUID value).isNone then .error failedGroup
      else .ok (lead ++ value, present)) = .ok (key, shown)) :
    Spells lead missing "none" value key := by
  split at described
  · rename_i same
    cases described
    exact Or.inl ⟨same, spelled⟩
  · split at described
    · cases described
    · rename_i read
      cases described
      refine Or.inr ⟨?_, rfl⟩
      rintro rfl
      simp [ids.words "none" (by simp)] at read

theorem property_spells {id : Id} {type : GroupedType}
    (described : (ResolvedGroup.property id type).describe library value parent = .ok (key, shown)) :
    ∃ state held, cut ":" value = some (state, held) ∧ ':' ∉ state.toList ∧
      key = propertyKey library id state held := by
  rw [ResolvedGroup.describe] at described
  split at described
  · cases described
  · rename_i state held parts
    dsimp only at described
    split at described
    · cases described
      exact ⟨_, _, parts, by decide, rfl⟩
    · cases described
      exact ⟨_, _, parts, by decide, rfl⟩
    · cases described
      exact ⟨_, _, parts, by decide, rfl⟩
    · split at described
      · cases described
        exact ⟨_, _, parts, by decide, rfl⟩
      · split at described
        · cases described
          exact ⟨_, _, parts, by decide, rfl⟩
        · cases described
    · cases described

theorem describe_injective (ids : CanonicalIDs library) {group : ResolvedGroup Id} {other : String}
    {otherShown : GroupValue} {otherParent : Option ParentRef}
    (described : group.describe library value parent = .ok (key, shown))
    (otherDescribed : group.describe library other otherParent = .ok (key, otherShown)) :
    value = other := by
  cases group with
  | ungrouped => cases described
  | compound primary visible filtered => cases described
  | status =>
      rw [ResolvedGroup.describe] at described otherDescribed
      split at described
      · cases described
      · split at otherDescribed
        · cases otherDescribed
        · cases described
          simp only [Except.ok.injEq, Prod.mk.injEq] at otherDescribed
          exact ((String.append_right_inj _).mp otherDescribed.1).symm
  | assignee => exact (assignee_spells described).injective (assignee_spells otherDescribed)
  | project =>
      have spells : Spells "project:" "__no_project__" "none" value key := reference_spells ids (by decide) described
      exact spells.injective (reference_spells ids (by decide) otherDescribed)
  | parent =>
      have spells : Spells "parent:" "__no_parent__" "none" value key := reference_spells ids (by decide) described
      exact spells.injective (reference_spells ids (by decide) otherDescribed)
  | property id type =>
      obtain ⟨state, held, parts, free, spelled⟩ := property_spells described
      obtain ⟨otherState, otherHeld, otherParts, otherFree, otherSpelled⟩ := property_spells otherDescribed
      have tails := spelled.symm.trans otherSpelled
      simp only [propertyKey, String.append_assoc, String.append_right_inj] at tails
      have cuts := congrArg (cut ":") tails
      rw [← String.append_assoc, ← String.append_assoc, cut_state free, cut_state otherFree] at cuts
      obtain ⟨rfl, encoded⟩ := Prod.mk.inj (Option.some.inj cuts)
      have decoded := congrArg Base64Lib.decode encoded
      rw [Base64Lib.decode_encode, Base64Lib.decode_encode] at decoded
      rw [eq_of_cut parts, eq_of_cut otherParts, Option.some.inj decoded]

end Injectivity

end MulticaOS.IssueTable
