import MulticaOS.IssueTable.Rows

/-!
`ListIssueTableGroups`: the headers of a grouped table, counted by the value that the group
expression gives to each matching issue.
-/

namespace MulticaOS.IssueTable

open GoLib
open Properties (Json)

variable {Id : Type}

structure ParentRef where
  id : String
  number : Nat
  identifier : String
  title : String
  status : String

structure GroupValue where
  kind : String
  actor : Option (String × String) := none
  projectID : Option String := none
  parentID : Option String := none
  parent : Option ParentRef := none
  propertyID : String := ""
  status : String := ""
  value : Option Json := none
  valueState : String := ""

structure CellDescriptor where
  key : String
  status : Status
  count : Nat

structure Descriptor where
  key : String
  value : GroupValue
  count : Nat
  secondaryGroups : List CellDescriptor

structure GroupsResponse where
  queryFingerprint : String
  total : Nat
  groups : List Descriptor
  nextCursor : Option Cursor

structure GroupRow where
  value : String
  issueCount : Nat
  visibleCount : Nat
  secondaryCounts : Status → Nat

def failedGroup : Failure := ⟨500, "", "failed to resolve table group"⟩

section Descriptors

variable (library : Library Id)

/-- `descriptor` of a group that is not compound: the key, and the value that it shows. -/
def ResolvedGroup.describe (raw : String) (parent : Option ParentRef) :
    ResolvedGroup Id → Except Failure (String × GroupValue)
  | .ungrouped => .error failedGroup
  | .status =>
      match statusNamed raw with
      | none => .error failedGroup
      | some _ => .ok ("status:" ++ raw, { kind := "status", status := raw })
  | .assignee =>
      if raw = "__unassigned__" then .ok ("assignee:unassigned", { kind := "assignee" })
      else
        match cut ":" raw with
        | none => .error failedGroup
        | some (type, id) =>
            if (isIssueActorType type).isNone ∨ (library.parseUUID id).isNone then .error failedGroup
            else .ok ("assignee:" ++ raw, { kind := "assignee", actor := some (type, id) })
  | .project =>
      if raw = "__no_project__" then .ok ("project:none", { kind := "project" })
      else if (library.parseUUID raw).isNone then .error failedGroup
      else .ok ("project:" ++ raw, { kind := "project", projectID := some raw })
  | .parent =>
      if raw = "__no_parent__" then .ok ("parent:none", { kind := "parent", valueState := "unset" })
      else if (library.parseUUID raw).isNone then .error failedGroup
      else
        let valueState := if parent.isNone then "unavailable" else "value"
        .ok ("parent:" ++ raw,
          { kind := "parent", parentID := some raw, parent := parent, valueState := valueState })
  | .property id type =>
      match cut ":" raw with
      | none => .error failedGroup
      | some (state, value) =>
          let key := "property:" ++ library.uuidToString id ++ ":" ++ state ++ ":" ++ Base64Lib.encode value
          let shown : GroupValue :=
            { kind := "property", propertyID := library.uuidToString id, valueState := state }
          match state, type with
          | "unset", _ => .ok (key, shown)
          | "unavailable", _ =>
              .ok (key, { shown with value := if value = "" then none else some (.string value) })
          | "value", .select _ => .ok (key, { shown with value := some (.string value) })
          | "value", .checkbox =>
              if value = "true" then .ok (key, { shown with value := some (.bool true) })
              else if value = "false" then .ok (key, { shown with value := some (.bool false) })
              else .error failedGroup
          | _, _ => .error failedGroup
  | .compound _ _ _ => .error failedGroup

def ResolvedGroup.descriptor (group : ResolvedGroup Id) (row : GroupRow) (parent : Option ParentRef) :
    Except Failure Descriptor :=
  match group with
  | .compound primary _ _ =>
      match primary.describe library row.value parent with
      | .error failure => .error failure
      | .ok (key, value) =>
          .ok ⟨key, value, row.issueCount, validIssueStatuses.map fun status =>
            ⟨compoundCellGroupKey key status, status, row.secondaryCounts status⟩⟩
  | group =>
      match group.describe library row.value parent with
      | .error failure => .error failure
      | .ok (key, value) => .ok ⟨key, value, row.issueCount, []⟩

end Descriptors

section Queries

variable [LinearOrder Id] (library : Library Id) (snapshot : Snapshot Id)

def splitPart (raw : String) : String := ((cut ":" raw).map Prod.fst).getD raw

def ResolvedGroup.orderExpression : ResolvedGroup Id → String → Int
  | .ungrouped, _ => 0
  | .status, raw => ((statusNamed raw).map statusOrder).getD 7
  | .assignee, raw =>
      match splitPart raw with
      | "member" => 0
      | "agent" => 1
      | "squad" => 2
      | _ => 3
  | .project, raw => if raw = "__no_project__" then 0 else 1
  | .parent, raw => if raw = "__no_parent__" then 0 else 1
  | .property _ (.select activeOptions), raw =>
      if (cutPrefix "value:" raw).isSome then
        (((activeOptions.map fun option => "value:" ++ option).idxOf? raw).map fun index =>
          (index + 1 : Int)).getD 100000
      else if (cutPrefix "unavailable:" raw).isSome then 100001
      else 100002
  | .property _ .checkbox, raw =>
      match raw with
      | "value:false" => 0
      | "value:true" => 1
      | "unavailable:" => 2
      | _ => 3
  | .compound primary _ _, raw => primary.orderExpression raw

def groupParent (raw : String) : Option (Issue Id) :=
  (library.parseUUID raw).bind fun id => snapshot.issues.find? fun issue => issue.id = id

def ResolvedGroup.sortExpression : ResolvedGroup Id → String → String
  | .assignee, raw =>
      let name := (cut ":" raw).bind fun parts =>
        (isIssueActorType parts.1).bind fun type =>
          (library.parseUUID parts.2).bind fun id => snapshot.actorName type id
      library.lower (name.getD "")
  | .project, raw =>
      if raw = "__no_project__" then ""
      else library.lower (((library.parseUUID raw).bind snapshot.projectTitle).getD "")
  | .parent, raw =>
      if raw = "__no_parent__" then ""
      else library.lower (((groupParent library snapshot raw).map Issue.title).getD "")
  | .compound primary _ _, raw => primary.sortExpression raw
  | _, raw => raw

def ResolvedGroup.contextExpression (issuePrefix : String) : ResolvedGroup Id → String → Option ParentRef
  | .parent, raw =>
      if raw = "__no_parent__" then none
      else
        (groupParent library snapshot raw).map fun parent =>
          ⟨library.uuidToString parent.id, parent.number, issuePrefix ++ "-" ++ toString parent.number,
            parent.title, parent.status.name⟩
  | .compound primary _ _, raw => primary.contextExpression issuePrefix raw
  | _, _ => none

def matching : List (Issue Id) := snapshot.issues.filter snapshot.holds

def ResolvedGroup.issueCount (group : ResolvedGroup Id) (value : String) : Nat :=
  (matching snapshot).countP fun issue => group.expression library issue = value

def ResolvedGroup.cellCount (group : ResolvedGroup Id) (value : String) (status : Status) : Nat :=
  (matching snapshot).countP fun issue =>
    group.expression library issue = value && issue.status = status && !isPromoted snapshot group issue

def ResolvedGroup.actual (group : ResolvedGroup Id) : List String :=
  ((matching snapshot).map (group.expression library)).dedup

def ResolvedGroup.expected : ResolvedGroup Id → List String
  | .property _ (.select activeOptions) => activeOptions.map (fun option => "value:" ++ option) ++ ["unset:"]
  | .property _ .checkbox => ["value:false", "value:true", "unset:"]
  | _ => []

def ResolvedGroup.grouped (group : ResolvedGroup Id) (includeEmpty : Bool) : List GroupRow :=
  match group with
  | .compound _ visible filtered =>
      let rows := (group.actual library snapshot).map fun value =>
        let cells := group.cellCount library snapshot value
        { value := value
          issueCount := (validIssueStatuses.map cells).sum
          visibleCount := ((validIssueStatuses.filter fun status =>
            !filtered || status.name ∈ visible).map cells).sum
          secondaryCounts := cells }
      if filtered then rows.filter fun row => 0 < row.visibleCount else rows
  | group =>
      let actual := group.actual library snapshot
      let values := if includeEmpty then
          group.expected ++ actual.filter fun value => value ∉ group.expected
        else actual
      values.map fun value =>
        ⟨value, group.issueCount library snapshot value, group.issueCount library snapshot value, fun _ => 0⟩

/-- `group_order > $1 OR (group_order = $1 AND (group_sort > $2 OR ...))`, strictly between rows. -/
def ResolvedGroup.headerBefore (group : ResolvedGroup Id) (order : Int) (sort value : String)
    (raw : String) : Bool :=
  let less := CastType.less library .text
  decide (order < group.orderExpression raw) ||
    (decide (order = group.orderExpression raw) &&
      (less sort (group.sortExpression library snapshot raw) ||
        (decide (sort = group.sortExpression library snapshot raw) && less value raw)))

def groupCursor (group : ResolvedGroup Id) (cursor : Option Cursor) :
    Except Failure (GroupRow → Bool) :=
  match cursor with
  | none => .ok fun _ => true
  | some cursor =>
      match cursor.groupOrder, cursor.groupSortKey, cursor.groupCursorKey with
      | some order, some sort, some key =>
          .ok fun row => group.headerBefore library snapshot order sort key row.value
      | _, _, _ => .error invalidCursor

def ResolvedGroup.continueAfter (group : ResolvedGroup Id) (request : GroupsRequest) (row : GroupRow) :
    Cursor where
  version := 1
  queryFingerprint := request.query.fingerprint
  groupKey := some (issueTableGroupIdentity request.group)
  parentID := none
  groupOrder := some (group.orderExpression row.value)
  groupSortKey := some (group.sortExpression library snapshot row.value)
  groupCursorKey := some row.value
  branchIdentity := ""
  sortValue := none
  sortIsNull := false
  rowCreatedAt := ""
  rowID := ""

def listIssueTableGroups (issuePrefix : String) (request : GroupsRequest) :
    Except Failure GroupsResponse := do
  let (limit, cursor) ← normalizeIssueTablePage request.page
  let group ← resolveIssueTableGroup library snapshot.definitions request.group false
  issueTableCursorMatches cursor request.query.fingerprint
    (some (issueTableGroupIdentity request.group)) none
  let isAfter ← groupCursor library snapshot group cursor
  let grouped := group.grouped library snapshot request.group.includeEmpty
  let scanned := ((grouped.filter isAfter).insertionSort fun left right =>
    group.headerBefore library snapshot (group.orderExpression right.value)
      (group.sortExpression library snapshot right.value) right.value left.value = false).take (limit + 1)
  let descriptors ← scanned.mapM fun row =>
    group.descriptor library row (group.contextExpression library snapshot issuePrefix row.value)
  return {
    queryFingerprint := request.query.fingerprint
    total := if scanned.isEmpty then 0 else (grouped.map GroupRow.visibleCount).sum
    groups := descriptors.take limit
    nextCursor := if limit < scanned.length then
        (scanned.take limit).getLast?.map (group.continueAfter library snapshot request)
      else none }

end Queries

end MulticaOS.IssueTable
