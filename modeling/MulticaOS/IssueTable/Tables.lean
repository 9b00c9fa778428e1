import MulticaOS.Properties.Definitions

/-!
The rows that the issue table reads, the requests of `issue_table_query.go`, and what the
code asks of packages and of the database.
-/

namespace MulticaOS.IssueTable

open Properties (Json PropertyType)

inductive Status where
  | backlog
  | todo
  | inProgress
  | inReview
  | done
  | blocked
  | cancelled
  deriving DecidableEq

inductive Priority where
  | urgent
  | high
  | medium
  | low
  | none
  deriving DecidableEq

inductive ActorType where
  | member
  | agent
  | squad
  deriving DecidableEq

def Status.name : Status → String
  | .backlog => "backlog"
  | .todo => "todo"
  | .inProgress => "in_progress"
  | .inReview => "in_review"
  | .done => "done"
  | .blocked => "blocked"
  | .cancelled => "cancelled"

def ActorType.name : ActorType → String
  | .member => "member"
  | .agent => "agent"
  | .squad => "squad"

def validIssueStatuses : List Status :=
  [.backlog, .todo, .inProgress, .inReview, .done, .blocked, .cancelled]

structure CalendarDate where
  year : Int
  month : Nat
  day : Nat
  valid : 1 ≤ month ∧ month ≤ 12 ∧ 1 ≤ day ∧ day ≤ GoLib.daysIn (year % 400).toNat month
  deriving DecidableEq

def pad (width value : Nat) : String :=
  let digits := Nat.toDigits 10 value
  String.ofList (List.replicate (width - digits.length) '0' ++ digits)

def CalendarDate.text (date : CalendarDate) : String :=
  let rest := "-" ++ pad 2 date.month ++ "-" ++ pad 2 date.day
  if 1 ≤ date.year then pad 4 date.year.toNat ++ rest else pad 4 (1 - date.year).toNat ++ rest ++ " BC"

section Rows

variable (Id : Type)

/-- A row of `issue`; times are microseconds, and the bag is keyed by property. -/
structure Issue where
  id : Id
  number : Nat
  title : String
  status : Status
  priority : Priority
  assigneeType : Option ActorType
  assigneeID : Option Id
  projectID : Option Id
  parentIssueID : Option Id
  position : Rat
  startDate : Option CalendarDate
  dueDate : Option CalendarDate
  createdAt : Int
  updatedAt : Int
  properties : Id → Option Json

structure Property where
  id : Id
  type : PropertyType
  options : List String
  archived : Bool

/-- What one transaction sees of a workspace, and which issues the query's `WHERE` is true of. -/
structure Snapshot where
  issues : List (Issue Id)
  definitions : List (Property Id)
  holds : Issue Id → Bool
  actorName : ActorType → Id → Option String
  projectTitle : Id → Option String

structure SortRequest where
  field : String
  direction : String

structure GroupSpec where
  kind : String
  propertyID : String
  includeEmpty : Bool
  primary : String
  secondary : String
  secondaryValues : Option (List String)

structure Cursor where
  version : Int
  queryFingerprint : String
  groupKey : Option String
  parentID : Option String
  groupOrder : Option Int
  groupSortKey : Option String
  groupCursorKey : Option String
  branchIdentity : String
  sortValue : Option String
  sortIsNull : Bool
  rowCreatedAt : String
  rowID : String
  deriving DecidableEq

inductive Token where
  | absent
  | undecodable
  | cursor (cursor : Cursor)
  deriving DecidableEq

structure PageRequest where
  limit : Int
  cursor : Token

structure Query where
  fingerprint : String
  sort : SortRequest

structure RowsRequest where
  query : Query
  group : GroupSpec
  groupKey : Option String
  hierarchy : Bool
  parentID : Option String
  page : PageRequest

structure GroupsRequest where
  query : Query
  group : GroupSpec
  page : PageRequest

structure Failure where
  status : Nat
  code : String
  message : String
  deriving DecidableEq

end Rows

inductive CastType where
  | integer
  | doublePrecision
  | numeric
  | timestamptz
  | date
  | text
  deriving DecidableEq

def CastType.Value : CastType → Type
  | .integer => Int
  | .doublePrecision => Rat
  | .numeric => Rat
  | .timestamptz => Int
  | .date => Int ×ₗ Nat ×ₗ Nat
  | .text => String

structure Library (Id : Type) where
  formatTime : Int → String
  parseTime : String → Option Int
  parsePostgresTime : String → Bool
  parseFloat : String → Bool
  toLower : String → String
  uuidToString : Id → String
  parseUUID : String → Option Id
  uuidParse : String → Option Id
  lower : String → String
  collation : LinearOrder String
  timestampText : Int → String
  doubleText : Rat → String
  numeric : String → Rat
  numericText : Rat → String
  jsonText : Json → String
  cast : (type : CastType) → String → Option type.Value

@[reducible]
def CastType.order {Id : Type} (library : Library Id) : (type : CastType) → LinearOrder type.Value
  | .integer => inferInstanceAs (LinearOrder Int)
  | .doublePrecision => inferInstanceAs (LinearOrder Rat)
  | .numeric => inferInstanceAs (LinearOrder Rat)
  | .timestamptz => inferInstanceAs (LinearOrder Int)
  | .date => inferInstanceAs (LinearOrder (Int ×ₗ Nat ×ₗ Nat))
  | .text => library.collation

end MulticaOS.IssueTable
