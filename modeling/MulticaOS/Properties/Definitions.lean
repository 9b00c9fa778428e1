import MulticaOS.Lib.GoText

/-!
Property definitions and values, and the validation of `property.go`.  Validation answers
with the value to store or the message of the error.
-/

namespace MulticaOS.Properties

open GoLib

abbrev Id := Nat

inductive PropertyType where
  | text
  | number
  | select
  | multiSelect
  | date
  | checkbox
  | url
  deriving DecidableEq

structure PropertyOption where
  id : String
  name : String
  color : String
  deriving DecidableEq

structure Property where
  id : Id
  name : String
  type : PropertyType
  description : String
  icon : String
  config : List PropertyOption
  position : Nat
  archivedAt : Option Nat
  deriving DecidableEq

/-- A JSON value as `encoding/json` decodes it; a number is its canonical text. -/
inductive Json where
  | null
  | bool (value : Bool)
  | number (value : String)
  | string (value : String)
  | array (items : List Json)
  | object (entries : List (String × Json))

/-- What the code asks of packages outside it: `net/url`, `google/uuid`, the case tables of
`strings` and of the database, the quoting of `fmt`, and the storage size of a bag. -/
structure Library where
  parseURL : String → Option (String × String)
  parseUUID : String → Bool
  toLower : String → String
  lower : String → String
  quote : String → String
  columnSize : (Id → Option Json) → Nat

def maxActivePropertiesPerWorkspace : Nat := 20
def maxPropertySelectOptions : Nat := 50
def maxPropertyNameLen : Nat := 32
def maxPropertyIconLen : Nat := 32
def maxPropertyDescriptionLen : Nat := 500
def maxPropertyTextValueLen : Nat := 2000
def maxPropertyURLValueLen : Nat := 2048
def maxLabelNameLen : Nat := 32

def validPropertyTypes : List (String × PropertyType) :=
  [("text", .text), ("number", .number), ("select", .select), ("multi_select", .multiSelect),
    ("date", .date), ("checkbox", .checkbox), ("url", .url)]

def validPropertyIcons : List String :=
  ["circle-dot", "signal-high", "user-round", "folder-kanban", "calendar-days", "tag", "milestone",
    "flag", "bookmark", "star", "target", "shield", "bug", "zap", "rocket", "sparkles", "lightbulb",
    "globe-2", "link", "hash", "list-checks", "circle-check", "clock-3", "briefcase-business",
    "layers-3", "gauge", "database", "code-2", "palette", "megaphone", "map-pin", "package",
    "wrench", "heart", "circle-alert", "lock-keyhole"]

def reservedPropertyNames : List String :=
  ["status", "priority", "assignee", "project", "parent", "stage", "label", "labels", "start_date",
    "due_date", "title", "description", "creator", "created_at", "updated_at", "metadata",
    "properties"]

section Validation

variable (library : Library)

def normalizePropertyName (name : String) : String :=
  String.ofList ((library.toLower (trimSpace name)).toList.map fun char => if char = ' ' then '_' else char)

def validatePropertyName (raw : String) : Except String String :=
  if raw.toList.any isControl then
    .error "name cannot contain tabs, newlines, or control characters"
  else
    let name := trimSpace raw
    if name = "" then .error "name is required"
    else if maxPropertyNameLen < name.length then
      .error s!"name must be {maxPropertyNameLen} characters or fewer"
    else if normalizePropertyName library name ∈ reservedPropertyNames then
      .error (library.quote name ++ " is reserved for a built-in issue field")
    else .ok name

def validatePropertyIcon (raw : String) : Except String String :=
  if raw.toList.any isControl then
    .error "icon cannot contain tabs, newlines, or control characters"
  else
    let icon := trimSpace raw
    if maxPropertyIconLen < icon.length then
      .error s!"icon must be {maxPropertyIconLen} characters or fewer"
    else if icon = "" then .ok ""
    else if icon ∈ validPropertyIcons then .ok icon
    else .error "icon must be a supported icon key"

def validatePropertyType (type : String) : Except String PropertyType :=
  match validPropertyTypes.lookup type with
  | some found => .ok found
  | none =>
      .error ("invalid type " ++ library.quote type ++ "; valid types: " ++
        ", ".intercalate (validPropertyTypes.map Prod.fst))

def PropertyType.hasOptions : PropertyType → Bool
  | .select => true
  | .multiSelect => true
  | _ => false

def PropertyType.name : PropertyType → String
  | .text => "text"
  | .number => "number"
  | .select => "select"
  | .multiSelect => "multi_select"
  | .date => "date"
  | .checkbox => "checkbox"
  | .url => "url"

def validateLabelName (raw : String) : Except String String :=
  if raw.toList.any isControl then
    .error "name cannot contain tabs, newlines, or control characters"
  else
    let name := trimSpace raw
    if name = "" then .error "name is required"
    else if maxLabelNameLen < name.length then .error "name must be 32 characters or fewer"
    else .ok name

def isHexDigit (char : Char) : Bool :=
  char.isDigit || ('a' ≤ char && char ≤ 'f') || ('A' ≤ char && char ≤ 'F')

def normalizeColor (raw : String) : Except String String :=
  let digits := match (trimSpace raw).toList with
    | '#' :: rest => rest
    | text => text
  if digits.length = 6 ∧ digits.all isHexDigit then
    .ok (String.ofList ('#' :: digits.map Char.toLower))
  else .error "color must be a 6-digit hex value like #3b82f6"

def validateOptions (newIDs : Nat → String) :
    List PropertyOption → List PropertyOption → Except String (List PropertyOption)
  | done, [] => .ok done
  | done, option :: rest =>
      match validateLabelName option.name with
      | .error message => .error ("option " ++ message)
      | .ok name =>
          if done.any fun other => library.toLower other.name = library.toLower name then
            .error ("duplicate option name " ++ library.quote name)
          else
            match normalizeColor option.color with
            | .error message => .error ("option " ++ library.quote name ++ ": " ++ message)
            | .ok color =>
                let given := trimSpace option.id
                let id := if given = "" then newIDs done.length else given
                if given ≠ "" ∧ library.parseUUID given = false then
                  .error ("option " ++ library.quote name ++ ": id must be a UUID")
                else if done.any fun other => other.id = id then
                  .error ("duplicate option id " ++ library.quote id)
                else validateOptions newIDs (done ++ [⟨id, name, color⟩]) rest

def validatePropertyConfig (newIDs : Nat → String) (type : PropertyType)
    (config : Option (List PropertyOption)) : Except String (List PropertyOption) :=
  let options := config.getD []
  if type.hasOptions = false then
    if options ≠ [] then .error ("type " ++ library.quote type.name ++ " does not accept options")
    else .ok []
  else if options = [] then .error "select properties require at least one option"
  else if maxPropertySelectOptions < options.length then
    .error s!"a property cannot have more than {maxPropertySelectOptions} options"
  else validateOptions library newIDs [] options

def propertyOptionIDs (config : List PropertyOption) (id : String) : Option Nat :=
  ((config.zipIdx.filter fun entry => entry.1.id = id).getLast?).map Prod.snd

def selectOptionsHint (config : List PropertyOption) : String :=
  ", ".intercalate (config.map fun option => option.id ++ " (" ++ option.name ++ ")")

def sanitizeNullBytes (text : String) : String :=
  String.ofList (text.toList.filter fun char => char ≠ Char.ofNat 0)

def collectOptionIDs (config : List PropertyOption) :
    List String → List Json → Except String (List String)
  | ids, [] => .ok ids
  | ids, .string id :: rest =>
      match propertyOptionIDs config id with
      | none =>
          .error ("unknown option id " ++ library.quote id ++ "; valid option ids: " ++
            selectOptionsHint config)
      | some _ => collectOptionIDs config (if id ∈ ids then ids else ids ++ [id]) rest
  | _, _ :: _ => .error ("value must be a non-empty array of option ids: " ++ selectOptionsHint config)

/-- `sort.SliceStable` by the position of the option in the config. -/
def sortOptionIDs (config : List PropertyOption) (ids : List String) : List String :=
  ids.mergeSort fun left right =>
    (propertyOptionIDs config left).getD 0 ≤ (propertyOptionIDs config right).getD 0

inductive Raw where
  | missing
  | invalid (message : String)
  | value (json : Json)

def validatePropertyValue (definition : Property) : Raw → Except String Json
  | .missing => .error "value is required"
  | .invalid message => .error ("value must be valid JSON: " ++ message)
  | .value .null => .error "value cannot be null (use DELETE to unset a property)"
  | .value json =>
      let config := definition.config
      match definition.type, json with
      | .text, .string text =>
          if trimSpace text = "" then
            .error "value cannot be empty (use DELETE to unset a property)"
          else if maxPropertyTextValueLen < text.length then
            .error s!"value must be {maxPropertyTextValueLen} characters or fewer"
          else .ok (.string (sanitizeNullBytes text))
      | .text, _ => .error "value must be a string"
      | .url, .string text =>
          let url := trimSpace text
          if maxPropertyURLValueLen < url.utf8ByteSize then
            .error s!"value must be {maxPropertyURLValueLen} characters or fewer"
          else
            match library.parseURL url with
            | some (scheme, host) =>
                if (scheme = "http" ∨ scheme = "https") ∧ host ≠ "" then .ok (.string url)
                else .error "value must be an http(s) URL"
            | none => .error "value must be an http(s) URL"
      | .url, _ => .error "value must be a URL string"
      | .number, .number value => .ok (.number value)
      | .number, _ => .error "value must be a number"
      | .checkbox, .bool value => .ok (.bool value)
      | .checkbox, _ => .error "value must be true or false"
      | .date, .string text =>
          match parseDate text with
          | some _ => .ok (.string text)
          | none => .error "value must be a date string in YYYY-MM-DD format"
      | .date, _ => .error "value must be a date string in YYYY-MM-DD format"
      | .select, .string id =>
          match propertyOptionIDs config id with
          | some _ => .ok (.string id)
          | none => .error ("value must be one of the option ids: " ++ selectOptionsHint config)
      | .select, _ => .error ("value must be one of the option ids: " ++ selectOptionsHint config)
      | .multiSelect, .array (item :: items) =>
          match collectOptionIDs library config [] (item :: items) with
          | .error message => .error message
          | .ok ids => .ok (.array ((sortOptionIDs config ids).map Json.string))
      | .multiSelect, _ =>
          .error ("value must be a non-empty array of option ids: " ++ selectOptionsHint config)

def accepted (definition : Property) (value : Json) : Bool :=
  match validatePropertyValue library definition (.value value) with
  | .ok _ => true
  | .error _ => false

end Validation

def removedOptionIDs (existing next : List PropertyOption) : List String :=
  (existing.filter fun option => (propertyOptionIDs next option.id).isNone).map PropertyOption.id

end MulticaOS.Properties
