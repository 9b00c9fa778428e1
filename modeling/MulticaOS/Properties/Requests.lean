import MulticaOS.Lib.Locks
import MulticaOS.Lib.Runs
import MulticaOS.Lib.Tables
import MulticaOS.Properties.Definitions

/-!
The requests of `property.go` on the definitions and values of one workspace.  Each
statement is one step and reads what is committed; the statement that writes is the last
of its transaction and is one step with the commit.  Advisory locks are held until then.
-/

namespace MulticaOS.Properties

structure Issue where
  id : Id
  properties : Id → Option Json

structure Tables where
  definitions : List Property
  issues : List Issue
  nextDefinition : Nat
  nextIssue : Nat

/-- The keys of `pg_advisory_xact_lock`: `props:` with the workspace id as the request spells
it, and `prop:` with the property. -/
inductive LockKey where
  | props (workspaceID : String)
  | prop (property : Id)
  deriving DecidableEq

structure CreatePropertyRequest where
  name : String
  type : String
  description : String
  icon : String
  config : Option (List PropertyOption)

structure UpdatePropertyRequest where
  name : Option String
  description : Option String
  icon : Option String
  config : Option (List PropertyOption)
  archived : Option Bool

structure Draft where
  name : String
  type : PropertyType
  description : String
  icon : String
  config : List PropertyOption

/-- `UpdateIssuePropertyParams`; `archivedAt` is the value to set, if it is to be set. -/
structure UpdateParams where
  name : Option String
  description : Option String
  icon : Option String
  config : Option (List PropertyOption)
  archivedAt : Option (Option Nat)

inductive Process where
  | createLock (workspaceID : String) (draft : Draft)
  | createCount (draft : Draft)
  | createInsert (draft : Draft)
  | updateLockWorkspace (workspaceID : String) (id : Id) (request : UpdatePropertyRequest)
  | updateLockProperty (id : Id) (request : UpdatePropertyRequest)
  | updateRead (id : Id) (request : UpdatePropertyRequest)
  | updateCensus (existing : Property) (params : UpdateParams) (archived : Option Bool)
      (removed : List String)
  | updateCount (existing : Property) (params : UpdateParams)
  | updateWrite (existing : Property) (params : UpdateParams)
  | setLock (issue property : Id) (raw : Raw)
  | setRead (issue property : Id) (raw : Raw)
  | setWrite (issue : Id) (definition : Property) (value : Json)
  | deleteRead (issue property : Id)
  | deleteWrite (issue property : Id)
  | succeeded
  | rejected (status : Nat) (message : String)

structure Outside where
  fails : Bool := false
  now : Nat := 0
  newIDs : Nat → String := fun _ => ""

def getIssueProperty (tables : Tables) (id : Id) : Option Property :=
  tables.definitions.find? fun definition => definition.id = id

def countActiveIssueProperties (tables : Tables) : Nat :=
  tables.definitions.countP fun definition => definition.archivedAt.isNone

/-- jsonb `?`: the string itself, an element of an array or a key of an object. -/
def Json.has (option : String) : Json → Bool
  | .string value => value = option
  | .array items => items.any fun
    | .string value => value = option
    | _ => false
  | .object entries => entries.any fun entry => entry.1 = option
  | _ => false

def optionUsage (tables : Tables) (key : Id) (option : String) : Nat :=
  tables.issues.countP fun issue =>
    match issue.properties key with
    | some value => value.has option
    | none => false

def countIssuesUsingPropertyOptions (tables : Tables) (options : List String) (key : Id) :
    List (String × Nat) :=
  (options.dedup.map fun option => (option, optionUsage tables key option)).filter fun row => 0 < row.2

def Issue.set (key : Id) (value : Json) (issue : Issue) : Issue :=
  { issue with properties := Function.update issue.properties key (some value) }

def Issue.unset (key : Id) (issue : Issue) : Issue :=
  { issue with properties := Function.update issue.properties key none }

def updateIssues (tables : Tables) (id : Id) (change : Issue → Issue) : Tables :=
  { tables with issues := TableLib.updateWhere (fun issue => issue.id = id) change tables.issues }

def setIssuePropertyValue (tables : Tables) (issue key : Id) (value : Json) : Tables :=
  updateIssues tables issue (Issue.set key value)

def deleteIssuePropertyValue (tables : Tables) (issue key : Id) : Tables :=
  updateIssues tables issue (Issue.unset key)

def Draft.row (draft : Draft) (id position : Nat) : Property where
  id := id
  name := draft.name
  type := draft.type
  description := draft.description
  icon := draft.icon
  config := draft.config
  position := position
  archivedAt := none

/-- `COALESCE((SELECT MAX(position) ...), 0) + 1`. -/
def nextPosition (tables : Tables) : Nat := (tables.definitions.map Property.position).foldr max 0 + 1

def createIssueProperty (tables : Tables) (draft : Draft) : Tables :=
  { tables with
    definitions := tables.definitions ++ [draft.row tables.nextDefinition (nextPosition tables)]
    nextDefinition := tables.nextDefinition + 1 }

def Property.update (params : UpdateParams) (row : Property) : Property :=
  { row with
    name := params.name.getD row.name
    description := params.description.getD row.description
    icon := params.icon.getD row.icon
    config := params.config.getD row.config
    archivedAt := params.archivedAt.getD row.archivedAt }

def updateIssueProperty (tables : Tables) (id : Id) (params : UpdateParams) : Tables :=
  { tables with
    definitions := TableLib.updateWhere (fun row => row.id = id) (Property.update params)
      tables.definitions }

section Requests

variable (library : Library)

def nameTaken (tables : Tables) (name : String) (self : Option Id) : Bool :=
  tables.definitions.any fun row => library.lower row.name = library.lower name && some row.id ≠ self

def capMessage : String :=
  s!"a workspace cannot have more than {maxActivePropertiesPerWorkspace} active properties; archive unused ones first"

def describeOptionsInUse (existing : List PropertyOption) (rows : List (String × Nat)) : String :=
  let nameOf := fun id =>
    match (existing.filter fun option => option.id = id).getLast? with
    | some option => if option.name = "" then id else option.name
    | none => id
  let parts := rows.map fun row => library.quote (nameOf row.1) ++ " (" ++ toString row.2 ++ " issues)"
  "cannot remove options still in use: " ++
    ", ".intercalate (parts.mergeSort fun left right => decide (left ≤ right)) ++
    "; clear or change those values first"

def validateCreate (newIDs : Nat → String) (request : CreatePropertyRequest) : Except String Draft := do
  let name ← validatePropertyName library request.name
  let type ← validatePropertyType library request.type
  if maxPropertyDescriptionLen < request.description.length then
    throw s!"description must be {maxPropertyDescriptionLen} characters or fewer"
  let icon ← validatePropertyIcon request.icon
  let config ← validatePropertyConfig library newIDs type request.config
  return ⟨name, type, sanitizeNullBytes (GoLib.trimSpace request.description), icon, config⟩

def validateUpdate (newIDs : Nat → String) (existing : Property) (request : UpdatePropertyRequest) :
    Except String UpdateParams := do
  let name ← request.name.mapM (validatePropertyName library)
  let description ← request.description.mapM fun raw =>
    if maxPropertyDescriptionLen < raw.length then
      .error s!"description must be {maxPropertyDescriptionLen} characters or fewer"
    else .ok (sanitizeNullBytes (GoLib.trimSpace raw))
  let icon ← request.icon.mapM validatePropertyIcon
  let config ← request.config.mapM fun options =>
    validatePropertyConfig library newIDs existing.type (some options)
  return ⟨name, description, icon, config, none⟩

/-- `UpdateProperty` once the options are settled: archiving needs no count. -/
def settleArchived (existing : Property) (params : UpdateParams) (archived : Option Bool) (now : Nat) :
    Process :=
  match archived with
  | none => .updateWrite existing params
  | some true => .updateWrite existing { params with archivedAt := some (some now) }
  | some false =>
      if existing.archivedAt.isSome then .updateCount existing { params with archivedAt := some none }
      else .updateWrite existing { params with archivedAt := some none }

def Process.wants : Process → Option LockKey
  | .createLock workspaceID _ => some (.props workspaceID)
  | .updateLockWorkspace workspaceID _ _ => some (.props workspaceID)
  | .updateLockProperty id _ => some (.prop id)
  | .setLock _ property _ => some (.prop property)
  | _ => none

def Process.locked : Process → Process
  | .createLock _ draft => .createCount draft
  | .updateLockWorkspace _ id request => .updateLockProperty id request
  | .updateLockProperty id request => .updateRead id request
  | .setLock issue property raw => .setRead issue property raw
  | process => process

def Process.execute (tables : Tables) (outside : Outside) : Process → Tables × Process
  | .createCount draft =>
      if maxActivePropertiesPerWorkspace ≤ countActiveIssueProperties tables then
        (tables, .rejected 400 capMessage)
      else (tables, .createInsert draft)
  | .createInsert draft =>
      if nameTaken library tables draft.name none then
        (tables, .rejected 409 "a property with that name already exists")
      else (createIssueProperty tables draft, .succeeded)
  | .updateRead id request =>
      match getIssueProperty tables id with
      | none => (tables, .rejected 404 "property not found")
      | some existing =>
          match validateUpdate library outside.newIDs existing request with
          | .error message => (tables, .rejected 400 message)
          | .ok params =>
              let removed := removedOptionIDs existing.config (params.config.getD existing.config)
              if removed = [] then (tables, settleArchived existing params request.archived outside.now)
              else (tables, .updateCensus existing params request.archived removed)
  | .updateCensus existing params archived removed =>
      match countIssuesUsingPropertyOptions tables removed existing.id with
      | [] => (tables, settleArchived existing params archived outside.now)
      | rows => (tables, .rejected 409 (describeOptionsInUse library existing.config rows))
  | .updateCount existing params =>
      if maxActivePropertiesPerWorkspace ≤ countActiveIssueProperties tables then
        (tables, .rejected 400 capMessage)
      else (tables, .updateWrite existing params)
  | .updateWrite existing params =>
      if (params.name.map fun name => nameTaken library tables name (some existing.id)) = some true then
        (tables, .rejected 409 "a property with that name already exists")
      else (updateIssueProperty tables existing.id params, .succeeded)
  | .setRead issue property raw =>
      match getIssueProperty tables property with
      | none => (tables, .rejected 404 "property not found")
      | some definition =>
          if definition.archivedAt.isSome then
            (tables, .rejected 400 ("property " ++ library.quote definition.name ++
              " is archived and cannot receive new values"))
          else
            match validatePropertyValue library definition raw with
            | .error message => (tables, .rejected 400 message)
            | .ok value => (tables, .setWrite issue definition value)
  | .setWrite issue definition value =>
      match tables.issues.find? fun row => row.id = issue with
      | none => (tables, .rejected 500 "failed to set property")
      | some row =>
          if 16384 < library.columnSize (row.set definition.id value).properties then
            (tables, .rejected 400 "issue properties exceed the 16KB size limit")
          else (setIssuePropertyValue tables issue definition.id value, .succeeded)
  | .deleteRead issue property =>
      match getIssueProperty tables property with
      | none => (tables, .rejected 404 "property not found")
      | some _ => (tables, .deleteWrite issue property)
  | .deleteWrite issue property =>
      match tables.issues.find? fun row => row.id = issue with
      | none => (tables, .rejected 500 "failed to unset property")
      | some _ => (deleteIssuePropertyValue tables issue property, .succeeded)
  | process => (tables, process)

def Process.failure : Process → Process
  | .createLock _ _ => .rejected 500 "failed to create property"
  | .createCount _ => .rejected 500 "failed to create property"
  | .createInsert _ => .rejected 500 "failed to create property"
  | .setLock _ _ _ => .rejected 500 "failed to set property"
  | .setRead _ _ _ => .rejected 500 "failed to set property"
  | .setWrite _ _ _ => .rejected 500 "failed to set property"
  | .deleteRead _ _ => .rejected 500 "failed to unset property"
  | .deleteWrite _ _ => .rejected 500 "failed to unset property"
  | .succeeded => .succeeded
  | .rejected status message => .rejected status message
  | _ => .rejected 500 "failed to update property"

def Process.finished : Process → Bool
  | .succeeded => true
  | .rejected _ _ => true
  | _ => false

inductive Call where
  | create (workspaceID : String) (request : CreatePropertyRequest)
  | update (workspaceID : String) (property : Id) (request : UpdatePropertyRequest)
  | set (issue property : Id) (raw : Raw)
  | delete (issue property : Id)

def Call.start (newIDs : Nat → String) : Call → Process
  | .create workspaceID request =>
      match validateCreate library newIDs request with
      | .error message => .rejected 400 message
      | .ok draft => .createLock workspaceID draft
  | .update workspaceID property request => .updateLockWorkspace workspaceID property request
  | .set issue property raw => .setLock issue property raw
  | .delete issue property => .deleteRead issue property

structure State where
  tables : Tables
  locks : List (LockKey × Nat)
  processes : List Process

inductive Action where
  | call (call : Call) (newIDs : Nat → String)
  | advance (index : Nat) (outside : Outside)
  | crash (index : Nat)
  | createIssue
  | deleteIssue (id : Id)

def settle (state : State) (index : Nat) (tables : Tables) (process : Process) : State where
  tables := tables
  locks := if process.finished then LockLib.release state.locks index else state.locks
  processes := state.processes.set index process

def step (state : State) : Action → State
  | .call call newIDs => { state with processes := state.processes ++ [call.start library newIDs] }
  | .advance index outside =>
      match state.processes[index]? with
      | none => state
      | some process =>
          if outside.fails then settle state index state.tables process.failure
          else
            match process.wants with
            | some key =>
                match LockLib.acquire state.locks key index with
                | none => state
                | some locks =>
                    { state with locks := locks, processes := state.processes.set index process.locked }
            | none =>
                let (tables, next) := process.execute library state.tables outside
                settle state index tables next
  | .crash index =>
      match state.processes[index]? with
      | none => state
      | some process => settle state index state.tables process.failure
  | .createIssue =>
      { state with tables := { state.tables with
          issues := state.tables.issues ++ [⟨state.tables.nextIssue, fun _ => none⟩]
          nextIssue := state.tables.nextIssue + 1 } }
  | .deleteIssue id =>
      { state with tables := { state.tables with
          issues := state.tables.issues.filter fun issue => issue.id ≠ id } }

end Requests

def initial : State := ⟨⟨[], [], 0, 0⟩, [], []⟩

end MulticaOS.Properties
