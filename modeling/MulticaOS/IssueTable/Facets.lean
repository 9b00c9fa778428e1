import MulticaOS.IssueTable.Queries
import MulticaOS.Lib.Aggregates

/-!
The facets of a table, translated from `issue_table_facets.go`.  A facet whose own filter looks
empty is counted over the `WHERE` of the whole query, any other one over a query of its own.
-/

namespace MulticaOS.IssueTable

open AggregateLib
open GoLib
open Properties (Json PropertyType)

structure FacetSpec where
  kind : String
  propertyID : String
  deriving DecidableEq

structure FacetsRequest where
  query : QuerySpec
  facets : List FacetSpec
  includeTotal : Option Bool

structure FacetResponse where
  kind : String
  propertyID : String
  values : List (String × Nat)
  deriving DecidableEq

structure FacetsResponse where
  queryFingerprint : String
  total : Nat
  facets : List FacetResponse
  deriving DecidableEq

def issueTableMaxFacets : Nat := 32

def issueTableQueryWithoutFacet (input : QuerySpec) (facet : FacetSpec) : QuerySpec :=
  match facet.kind with
  | "status" => { input with filters := { input.filters with statuses := [] } }
  | "priority" => { input with filters := { input.filters with priorities := [] } }
  | "assignee" =>
      { input with filters := { input.filters with assignees := none, includeNoAssignee := false } }
  | "creator" => { input with filters := { input.filters with creators := [] } }
  | "project" =>
      { input with filters := { input.filters with projectIDs := [], includeNoProject := false } }
  | "label" => { input with filters := { input.filters with labelIDs := [] } }
  | "property" =>
      { input with filters :=
          { input.filters with
            properties := input.filters.properties.filter fun entry => entry.1 ≠ facet.propertyID } }
  | _ => input

def issueTableFacetIdentity (facet : FacetSpec) : String :=
  if facet.kind = "property" then "property:" ++ facet.propertyID else facet.kind

def FacetSpec.respond (facet : FacetSpec) (values : List (String × Nat)) : FacetResponse :=
  ⟨facet.kind, facet.propertyID, values⟩

def sortValues (values : List (String × Nat)) : List (String × Nat) :=
  values.insertionSort fun left right => left.1 ≤ right.1

section Facets

variable {Id : Type} [DecidableEq Id] (library : Library Id)

def assigneeExpression (issue : TableIssue Id) : String :=
  match issue.assigneeType, issue.assigneeID with
  | some type, some id => type.name ++ ":" ++ library.uuidToString id
  | _, _ => "__none__"

def creatorExpression (issue : TableIssue Id) : String :=
  issue.creatorType.name ++ ":" ++ library.uuidToString issue.creatorID

def projectExpression (issue : TableIssue Id) : String :=
  (issue.projectID.map library.uuidToString).getD "__none__"

def issueTableBaseFacetExpression (query : QuerySpec) (facet : FacetSpec) :
    Option (TableIssue Id → String) :=
  match facet.kind with
  | "status" => if query.filters.statuses = [] then some fun issue => issue.status.name else none
  | "priority" => if query.filters.priorities = [] then some fun issue => issue.priority.name else none
  | "assignee" =>
      if query.filters.assignees.getD [] = [] ∧ query.filters.includeNoAssignee = false then
        some (assigneeExpression library)
      else none
  | "creator" => if query.filters.creators = [] then some (creatorExpression library) else none
  | "project" =>
      if query.filters.projectIDs = [] ∧ query.filters.includeNoProject = false then
        some (projectExpression library)
      else none
  | _ => none

def failedFacets : Failure := ⟨500, "", "failed to list table facets"⟩

def groupingSets (matching : List (TableIssue Id)) (query : QuerySpec) (facets : List FacetSpec)
    (includeTotal : Bool) : List (String × String × Nat) :=
  (facets.flatMap fun facet =>
    match issueTableBaseFacetExpression library query facet with
    | none => []
    | some expression =>
        (groupCount (matching.map expression)).map fun row => (issueTableFacetIdentity facet, row)) ++
    if includeTotal then [("__total__", "", matching.length)] else []

def scanRows (responses : String → Option (List (String × Nat))) (total : Nat) :
    List (String × String × Nat) → Except Failure ((String → Option (List (String × Nat))) × Nat)
  | [] => .ok (responses, total)
  | (identity, row) :: rest =>
      if identity = "__total__" then scanRows responses row.2 rest
      else
        match responses identity with
        | none => .error failedFacets
        | some values => scanRows (Function.update responses identity (some (values ++ [row]))) total rest

def issueTableBaseFacetQuery (matching : List (TableIssue Id)) (query : QuerySpec) (facets : List FacetSpec)
    (includeTotal : Bool) : Except Failure ((String → Option (List (String × Nat))) × Nat) :=
  let empty : String → Option (List (String × Nat)) := fun identity =>
    if identity ∈ facets.map issueTableFacetIdentity then some [] else none
  (scanRows empty 0 (groupingSets library matching query facets includeTotal)).map fun scanned =>
    (fun identity => (scanned.1 identity).map sortValues, scanned.2)

def elementTexts (propertyID : Id) (issue : TableIssue Id) : List (Option String) :=
  match issue.properties propertyID with
  | some (.array items) => items.map (arrowText library)
  | _ => []

def propertyTexts (property : Property Id) (issue : TableIssue Id) : List String :=
  match property.type, issue.properties property.id with
  | .select, some (.string value) => [value]
  | .checkbox, some (.bool value) => [if value then "true" else "false"]
  | .multiSelect, _ => (elementTexts library property.id issue).reduceOption
  | _, _ => []

def resolveFacetProperty (definitions : List (Property Id)) (facet : FacetSpec) :
    Except Failure (Property Id) :=
  match library.parseUUID facet.propertyID with
  | none => .error (invalid "invalid facets.property_id")
  | some id =>
      match getIssueProperty definitions id with
      | none => .error (unsupportedGroup "property_not_found" "The faceted property no longer exists.")
      | some property =>
          if property.archived then
            .error (unsupportedGroup "property_archived" "The faceted property is archived.")
          else .ok property

def propertyFacetRows (matching : List (TableIssue Id)) (property : Property Id) :
    Except Failure (List (String × Nat)) :=
  match property.type with
  | .select | .checkbox => .ok (groupCount (matching.flatMap (propertyTexts library property)))
  | .multiSelect =>
      if matching.any fun issue => none ∈ elementTexts library property.id issue then .error failedFacets
      else
        .ok (groupCountDistinct (matching.flatMap fun issue =>
          (propertyTexts library property issue).map fun value => (issue.id, value)))
  | _ =>
      .error (unsupportedGroup "property_type_unsupported"
        "This property type cannot be used as a filter facet.")

def facetRows (definitions : List (Property Id)) (matching : List (TableIssue Id)) (facet : FacetSpec) :
    Except Failure (List (String × Nat)) :=
  match facet.kind with
  | "status" => .ok (groupCount (matching.map fun issue => issue.status.name))
  | "priority" => .ok (groupCount (matching.map fun issue => issue.priority.name))
  | "assignee" => .ok (groupCount (matching.map (assigneeExpression library)))
  | "creator" => .ok (groupCount (matching.map (creatorExpression library)))
  | "project" => .ok (groupCount (matching.map (projectExpression library)))
  | "label" =>
      .ok ((groupCountDistinct (matching.flatMap fun issue =>
        issue.labels.map fun label => (issue.id, label))).map fun row => (library.uuidToString row.1, row.2))
  | "property" =>
      match resolveFacetProperty library definitions facet with
      | .error failure => .error failure
      | .ok property => propertyFacetRows library matching property
  | _ => .error (invalid "invalid facets.kind")

def issueTableFacetQuery (snapshot : TableSnapshot Id) (userID : Option Id) (query : QuerySpec)
    (facet : FacetSpec) : Except Failure FacetResponse :=
  match compileIssueTableQuery library snapshot userID (issueTableQueryWithoutFacet query facet) with
  | .error failure => .error failure
  | .ok holds =>
      (facetRows library snapshot.definitions (snapshot.issues.filter holds) facet).map fun rows =>
        facet.respond (sortValues rows)

def FacetSpec.normalized (facet : FacetSpec) : FacetSpec :=
  ⟨trimSpace facet.kind, trimSpace facet.propertyID⟩

/-- The handler; `fingerprint` is `canonicalIssueTableFingerprint` in the workspace. -/
def listIssueTableFacets (fingerprint : QuerySpec → String) (snapshot : TableSnapshot Id)
    (userID : Option Id) (request : FacetsRequest) : Except Failure FacetsResponse :=
  if request.facets = [] ∨ issueTableMaxFacets < request.facets.length then
    .error (invalid ("facets must contain between 1 and " ++ toString issueTableMaxFacets ++ " entries"))
  else
    match compileIssueTableQuery library snapshot userID request.query with
    | .error failure => .error failure
    | .ok holds =>
        let facets := request.facets.map FacetSpec.normalized
        if ¬(facets.map issueTableFacetIdentity).Nodup then .error (invalid "duplicate table facet")
        else
          let includeTotal := request.includeTotal.getD true
          let matching := snapshot.issues.filter holds
          let batchable (facet : FacetSpec) : Bool :=
            (issueTableBaseFacetExpression library request.query facet).isSome
          let batch := facets.filter batchable
          match if batch = [] then .ok (fun _ => none, if includeTotal then matching.length else 0)
            else issueTableBaseFacetQuery library matching request.query batch includeTotal with
          | .error failure => .error failure
          | .ok (batched, total) =>
              (facets.mapM fun facet =>
                if batchable facet then .ok (facet.respond ((batched (issueTableFacetIdentity facet)).getD []))
                else issueTableFacetQuery library snapshot userID request.query facet).map
              fun responses => ⟨fingerprint request.query, total, responses⟩

end Facets

end MulticaOS.IssueTable
