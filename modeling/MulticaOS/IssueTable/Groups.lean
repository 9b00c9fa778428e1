import MulticaOS.IssueTable.Sorting
import MulticaOS.Lib.Base64

/-!
Groups of a table: the value by which the headers count an issue, the key of a group, and
the predicate into which a request for its rows turns the key.
-/

namespace MulticaOS.IssueTable

open GoLib
open Properties (Json PropertyType)

variable {Id : Type}

inductive GroupedType where
  | select (activeOptions : List String)
  | checkbox
  deriving DecidableEq

inductive ResolvedGroup (Id : Type) where
  | ungrouped
  | status
  | assignee
  | project
  | parent
  | property (propertyID : Id) (propertyType : GroupedType)
  | compound (primary : ResolvedGroup Id) (secondaryValues : List String) (secondaryFiltered : Bool)

def issueTableGroupIdentity (group : GroupSpec) : String :=
  if group.kind = "property" then
    "group:property:" ++ group.propertyID ++ ":empty=" ++ toString group.includeEmpty
  else if group.kind = "compound" then
    let identity := "group:compound:" ++ group.primary ++ ":" ++ group.secondary
    match group.secondaryValues with
    | some values => identity ++ ":visible=" ++ ",".intercalate values
    | none => identity
  else "group:" ++ group.kind

def unsupportedGroup (code message : String) : Failure := ⟨422, code, message⟩

def statusNamed (name : String) : Option Status :=
  validIssueStatuses.find? fun status => status.name = name

def isIssueActorType (name : String) : Option ActorType :=
  [ActorType.member, .agent, .squad].find? fun type => type.name = name

def checkSecondaryValues : List String → List String → Except Failure Unit
  | _, [] => .ok ()
  | seen, value :: rest =>
      if (statusNamed value).isNone then .error (invalid "invalid group.secondary_values")
      else if value ∈ seen then .error (invalid "duplicate group.secondary_values")
      else checkSecondaryValues (value :: seen) rest

def primaryGroup (kind : String) : Option (ResolvedGroup Id) :=
  match kind with
  | "assignee" => some .assignee
  | "project" => some .project
  | "parent" => some .parent
  | _ => none

section Resolution

variable [DecidableEq Id] (library : Library Id)

def resolvePropertyGroup (definitions : List (Property Id)) (rawID : String) :
    Except Failure (ResolvedGroup Id) :=
  match library.parseUUID rawID with
  | none => .error (invalid "invalid group.property_id")
  | some id =>
      match getIssueProperty definitions id with
      | none => .error (unsupportedGroup "property_not_found" "The grouped property no longer exists.")
      | some property =>
          if property.archived then
            .error (unsupportedGroup "property_archived" "The grouped property is archived.")
          else
            match property.type with
            | .select => .ok (.property property.id (.select property.options))
            | .checkbox => .ok (.property property.id .checkbox)
            | _ =>
                .error (unsupportedGroup "property_type_unsupported"
                  "This property type cannot be used for grouping.")

def resolveIssueTableGroup (definitions : List (Property Id)) (group : GroupSpec) (allowNone : Bool) :
    Except Failure (ResolvedGroup Id) :=
  if group.kind ≠ "compound" ∧ group.secondaryValues.isSome then
    .error (invalid "group.secondary_values requires group.kind=compound")
  else
    match group.kind with
    | "none" =>
        if allowNone then .ok .ungrouped
        else .error (invalid "group.kind=none is not valid for group headers")
    | "status" => .ok .status
    | "assignee" => .ok .assignee
    | "project" => .ok .project
    | "parent" => .ok .parent
    | "compound" =>
        if group.secondary ≠ "status" then
          .error (unsupportedGroup "secondary_group_unsupported"
            "Only status is supported as a secondary group.")
        else
          match primaryGroup group.primary with
          | none =>
              .error (unsupportedGroup "primary_group_unsupported" "This primary group is not supported.")
          | some primary =>
              match checkSecondaryValues [] (group.secondaryValues.getD []) with
              | .error failure => .error failure
              | .ok _ =>
                  .ok (.compound primary (group.secondaryValues.getD []) group.secondaryValues.isSome)
    | "property" => resolvePropertyGroup library definitions group.propertyID
    | _ => .error (unsupportedGroup "group_kind_unsupported" "This group type is not supported.")

end Resolution

section Keys

variable (library : Library Id)

/-- `group_value`: what the headers count an issue under. -/
def ResolvedGroup.expression : ResolvedGroup Id → Issue Id → String
  | .ungrouped, _ => ""
  | .status, issue => issue.status.name
  | .assignee, issue =>
      match issue.assigneeType, issue.assigneeID with
      | some type, some id => type.name ++ ":" ++ library.uuidToString id
      | _, _ => "__unassigned__"
  | .project, issue => (issue.projectID.map library.uuidToString).getD "__no_project__"
  | .parent, issue => (issue.parentIssueID.map library.uuidToString).getD "__no_parent__"
  | .property id (.select activeOptions), issue =>
      match issue.properties id with
      | none => "unset:"
      | some (.string value) =>
          if value ∈ activeOptions then "value:" ++ value else "unavailable:" ++ value
      | some _ => "unavailable:"
  | .property id .checkbox, issue =>
      match issue.properties id with
      | none => "unset:"
      | some (.bool true) => "value:true"
      | some (.bool false) => "value:false"
      | some _ => "unavailable:"
  | .compound primary _ _, issue => primary.expression issue

def compoundCellGroupKey (primaryKey : String) (status : Status) : String :=
  "compound:" ++ Base64Lib.encode primaryKey ++ ":status:" ++ status.name

def invalidGroupKey : Failure := invalid "invalid group_key"

def propertyPredicate (id : Id) (type : GroupedType) (state value : String) :
    Except Failure (Issue Id → Bool) :=
  match state, type with
  | "unset", _ =>
      if value ≠ "" then .error invalidGroupKey
      else .ok fun issue => (issue.properties id).isNone
  | "value", .select activeOptions =>
      if value ∈ activeOptions then
        .ok fun issue =>
          match issue.properties id with
          | some (.string held) => held = value
          | _ => false
      else .error invalidGroupKey
  | "value", .checkbox =>
      if value = "true" ∨ value = "false" then
        .ok fun issue =>
          match issue.properties id with
          | some (.bool held) => (if held then "true" else "false") = value
          | _ => false
      else .error invalidGroupKey
  | "unavailable", .select _ =>
      .ok fun issue =>
        match issue.properties id with
        | some (.string held) => value ≠ "" && held = value
        | some _ => value = ""
        | none => false
  | "unavailable", .checkbox =>
      .ok fun issue =>
        match issue.properties id with
        | some (.bool _) => false
        | some _ => true
        | none => false
  | _, _ => .error invalidGroupKey

def ResolvedGroup.predicate [DecidableEq Id] :
    ResolvedGroup Id → String → Except Failure (Issue Id → Bool)
  | .ungrouped, key =>
      if key ≠ "" then .error (invalid "group_key must be empty when group.kind=none")
      else .ok fun _ => true
  | .status, key =>
      match (cutPrefix "status:" key).bind statusNamed with
      | none => .error invalidGroupKey
      | some named => .ok fun issue => issue.status = named
  | .assignee, key =>
      match cutPrefix "assignee:" key with
      | none => .error invalidGroupKey
      | some raw =>
          if raw = "unassigned" then
            .ok fun issue => issue.assigneeType.isNone && issue.assigneeID.isNone
          else
            match cut ":" raw with
            | none => .error invalidGroupKey
            | some (type, id) =>
                match isIssueActorType type, library.parseUUID id with
                | some type, some id =>
                    .ok fun issue => issue.assigneeType = some type && issue.assigneeID = some id
                | _, _ => .error invalidGroupKey
  | .project, key =>
      match cutPrefix "project:" key with
      | none => .error invalidGroupKey
      | some raw =>
          if raw = "none" then .ok fun issue => issue.projectID.isNone
          else
            match library.parseUUID raw with
            | none => .error invalidGroupKey
            | some id => .ok fun issue => issue.projectID = some id
  | .parent, key =>
      match cutPrefix "parent:" key with
      | none => .error invalidGroupKey
      | some raw =>
          if raw = "none" then .ok fun issue => issue.parentIssueID.isNone
          else
            match library.parseUUID raw with
            | none => .error invalidGroupKey
            | some id => .ok fun issue => issue.parentIssueID = some id
  | .property id type, key =>
      match (cutPrefix ("property:" ++ library.uuidToString id ++ ":") key).bind (cut ":") with
      | none => .error invalidGroupKey
      | some (state, encoded) =>
          match Base64Lib.decode encoded with
          | none => .error invalidGroupKey
          | some value => propertyPredicate id type state value
  | .compound primary _ _, key =>
      match (cutPrefix "compound:" key).bind (cut ":status:") with
      | none => .error invalidGroupKey
      | some (encoded, name) =>
          match statusNamed name, Base64Lib.decode encoded with
          | some named, some primaryKey =>
              match primary.predicate primaryKey with
              | .error failure => .error failure
              | .ok inPrimary => .ok fun issue => inPrimary issue && issue.status = named
          | _, _ => .error invalidGroupKey

end Keys

end MulticaOS.IssueTable
