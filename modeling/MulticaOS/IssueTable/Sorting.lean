import MulticaOS.IssueTable.Tables

/-!
The sort of a table: the expression that a field resolves to, `ORDER BY`, and the predicate
with which a cursor continues after the row that it was made from.
-/

namespace MulticaOS.IssueTable

open GoLib
open Properties (Json PropertyType)

inductive Direction where
  | asc
  | desc
  deriving DecidableEq

inductive SortExpression (Id : Type) where
  | position
  | title
  | createdAt
  | updatedAt
  | startDate
  | dueDate
  | status
  | priority
  | propertyNumber (property : Id)
  | propertyText (property : Id)
  deriving DecidableEq

structure ResolvedSort (Id : Type) where
  expression : SortExpression Id
  direction : Direction
  deriving DecidableEq

def statusOrder : Status → Int
  | .backlog => 0
  | .todo => 1
  | .inProgress => 2
  | .inReview => 3
  | .done => 4
  | .blocked => 5
  | .cancelled => 6

def priorityOrder : Priority → Int
  | .urgent => 0
  | .high => 1
  | .medium => 2
  | .low => 3
  | .none => 4

def SortExpression.castType {Id : Type} : SortExpression Id → CastType
  | .position => .doublePrecision
  | .title => .text
  | .createdAt => .timestamptz
  | .updatedAt => .timestamptz
  | .startDate => .date
  | .dueDate => .date
  | .status => .integer
  | .priority => .integer
  | .propertyNumber _ => .numeric
  | .propertyText _ => .text

def SortExpression.nullsLast {Id : Type} : SortExpression Id → Bool
  | .startDate => true
  | .dueDate => true
  | .propertyNumber _ => true
  | .propertyText _ => true
  | _ => false

structure SortKey (type : CastType) where
  value : type.Value
  text : String

def CalendarDate.key (date : CalendarDate) : SortKey .date :=
  ⟨toLex (date.year, toLex (date.month, date.day)), date.text⟩

def integerKey (value : Int) : SortKey .integer := ⟨value, toString value⟩

variable {Id : Type}

section Expressions

variable (library : Library Id)

def timestampKey (value : Int) : SortKey .timestamptz := ⟨value, library.timestampText value⟩

def arrowText : Json → Option String
  | .null => none
  | .bool true => some "true"
  | .bool false => some "false"
  | .number value => some value
  | .string value => some value
  | json => some (library.jsonText json)

def SortExpression.key (issue : Issue Id) :
    (expression : SortExpression Id) → Option (SortKey expression.castType)
  | .position => some ⟨issue.position, library.doubleText issue.position⟩
  | .title => some ⟨issue.title, issue.title⟩
  | .createdAt => some (timestampKey library issue.createdAt)
  | .updatedAt => some (timestampKey library issue.updatedAt)
  | .startDate => issue.startDate.map CalendarDate.key
  | .dueDate => issue.dueDate.map CalendarDate.key
  | .status => some (integerKey (statusOrder issue.status))
  | .priority => some (integerKey (priorityOrder issue.priority))
  | .propertyNumber property =>
      match issue.properties property with
      | some (.number value) => some ⟨library.numeric value, library.numericText (library.numeric value)⟩
      | _ => none
  | .propertyText property =>
      match (issue.properties property).bind (arrowText library) with
      | some text => if text = "" then none else some ⟨text, text⟩
      | none => none

end Expressions

def invalid (message : String) : Failure := ⟨400, "", message⟩

section Requests

variable [DecidableEq Id] (library : Library Id)

def getIssueProperty (definitions : List (Property Id)) (id : Id) : Option (Property Id) :=
  definitions.find? fun definition => definition.id = id

/-- `propertySortExpr` of a field `property:<id>`; `none` is the empty expression. -/
def propertySortExpr (definitions : List (Property Id)) (rawID : String) :
    Except Failure (Option (SortExpression Id)) :=
  match library.uuidParse rawID with
  | none => .error (invalid "invalid sort value")
  | some id =>
      match getIssueProperty definitions id with
      | none => .ok none
      | some definition =>
          if definition.archived then .ok none
          else
            match definition.type with
            | .number => .ok (some (.propertyNumber id))
            | .date => .ok (some (.propertyText id))
            | .text => .ok (some (.propertyText id))
            | .url => .ok (some (.propertyText id))
            | .select => .ok (some (.propertyText id))
            | .multiSelect => .ok none
            | .checkbox => .ok none

def sortExpression (definitions : List (Property Id)) (field : String) :
    Except Failure (SortExpression Id) :=
  match field with
  | "position" => .ok .position
  | "title" => .ok .title
  | "created_at" => .ok .createdAt
  | "updated_at" => .ok .updatedAt
  | "start_date" => .ok .startDate
  | "due_date" => .ok .dueDate
  | "status" => .ok .status
  | "priority" => .ok .priority
  | field =>
      match cutPrefix "property:" field with
      | none => .error (invalid "invalid query.sort.field")
      | some rawID =>
          match propertySortExpr library definitions rawID with
          | .error failure => .error failure
          | .ok expression => .ok (expression.getD .position)

def issueTableOrderBy (definitions : List (Property Id)) (request : SortRequest) :
    Except Failure (ResolvedSort Id) :=
  let trimmed := trimSpace request.field
  match sortExpression library definitions (if trimmed = "" then "position" else trimmed) with
  | .error failure => .error failure
  | .ok expression =>
      match library.toLower (trimSpace request.direction) with
      | "" => .ok ⟨expression, .asc⟩
      | "asc" => .ok ⟨expression, .asc⟩
      | "desc" => .ok ⟨expression, if expression = .position then .asc else .desc⟩
      | _ => .error (invalid "invalid query.sort.direction")

end Requests

section Order

variable [LinearOrder Id] (library : Library Id) (sort : ResolvedSort Id)

def ResolvedSort.castType (sort : ResolvedSort Id) : CastType := sort.expression.castType

def ResolvedSort.nullsLast (sort : ResolvedSort Id) : Bool := sort.expression.nullsLast

def ResolvedSort.value (issue : Issue Id) : Option sort.castType.Value :=
  (sort.expression.key library issue).map SortKey.value

def CastType.less (type : CastType) (left right : type.Value) : Bool :=
  letI := type.order library
  decide (left < right)

def Direction.before (direction : Direction) (type : CastType) (left right : type.Value) : Bool :=
  match direction with
  | .asc => type.less library left right
  | .desc => type.less library right left

def tieBefore (left right : Issue Id) : Bool :=
  decide (right.createdAt < left.createdAt) ||
    (decide (left.createdAt = right.createdAt) && decide (right.id < left.id))

/-- `ResolvedSort.orderBy`, strictly; without `NULLS LAST` a descending order has nulls first. -/
def ResolvedSort.before (left right : Issue Id) : Bool :=
  match sort.value library left, sort.value library right with
  | some leftValue, some rightValue =>
      sort.direction.before library sort.castType leftValue rightValue ||
        (!sort.direction.before library sort.castType rightValue leftValue && tieBefore left right)
  | some _, none => sort.nullsLast || decide (sort.direction = .asc)
  | none, some _ => !(sort.nullsLast || decide (sort.direction = .asc))
  | none, none => tieBefore left right

def ResolvedSort.orderBy (left right : Issue Id) : Bool := !sort.before library right left

def CastType.accepts (type : CastType) (text : String) : Bool :=
  match type with
  | .integer => (parseInt text).isSome
  | .doublePrecision => library.parseFloat text
  | .numeric => library.parseFloat text
  | .timestamptz => (library.parseTime text).isSome || library.parsePostgresTime text
  | .date => (parseDate text).isSome
  | .text => true

def invalidCursor : Failure := invalid "invalid cursor"

def cursorTie (createdAt : Int) (rowID : Id) (issue : Issue Id) : Bool :=
  decide (issue.createdAt < createdAt) ||
    (decide (issue.createdAt = createdAt) && decide (issue.id < rowID))

/-- The predicate of a cursor at a value.  A comparison with a null is not true. -/
def ResolvedSort.afterValue (value : sort.castType.Value) (createdAt : Int) (rowID : Id)
    (issue : Issue Id) : Bool :=
  match sort.value library issue with
  | none => sort.nullsLast
  | some key =>
      let equal := !sort.castType.less library key value && !sort.castType.less library value key
      let predicate := sort.direction.before library sort.castType value key ||
        (equal && cursorTie createdAt rowID issue)
      if sort.expression = .position then !sort.castType.less library key value && predicate
      else predicate

def ResolvedSort.cursorPredicate (cursor : Option Cursor) : Except Failure (Issue Id → Bool) :=
  match cursor with
  | none => .ok fun _ => true
  | some cursor =>
      match library.parseTime cursor.rowCreatedAt with
      | none => .error invalidCursor
      | some createdAt =>
          if cursor.rowID = "" then .error invalidCursor
          else
            match library.parseUUID cursor.rowID with
            | none => .error invalidCursor
            | some rowID =>
                if cursor.sortIsNull then
                  if sort.nullsLast = false ∨ cursor.sortValue ≠ none then .error invalidCursor
                  else
                    .ok fun issue =>
                      (sort.value library issue).isNone && cursorTie createdAt rowID issue
                else
                  match cursor.sortValue with
                  | none => .error invalidCursor
                  | some text =>
                      if sort.castType.accepts library text = false then .error invalidCursor
                      else
                        match library.cast sort.castType text with
                        | none => .error ⟨500, "", "failed to list table rows"⟩
                        | some value => .ok (sort.afterValue library value createdAt rowID)

end Order

section Ranks

variable [LinearOrder Id] {library : Library Id} {sort : ResolvedSort Id} {left right : Issue Id}

def Ordered (_library : Library Id) (sort : ResolvedSort Id) : Type := sort.castType.Value

instance (library : Library Id) (sort : ResolvedSort Id) : LinearOrder (Ordered library sort) :=
  match sort.direction with
  | .asc => sort.castType.order library
  | .desc => @OrderDual.instLinearOrder _ (sort.castType.order library)

abbrev Rank (library : Library Id) (sort : ResolvedSort Id) : Type :=
  WithTop (Ordered library sort) ×ₗ Intᵒᵈ ×ₗ Idᵒᵈ

def ordered (library : Library Id) (sort : ResolvedSort Id) (value : sort.castType.Value) :
    Ordered library sort := value

def place (library : Library Id) (sort : ResolvedSort Id) :
    Option sort.castType.Value → WithTop (Ordered library sort)
  | some value => ordered library sort value
  | none => ⊤

def ResolvedSort.rank (library : Library Id) (sort : ResolvedSort Id) (issue : Issue Id) :
    Rank library sort :=
  toLex (place library sort (sort.value library issue),
    toLex (OrderDual.toDual issue.createdAt, OrderDual.toDual issue.id))

omit [LinearOrder Id] in
theorem before_iff {value other : sort.castType.Value} :
    sort.direction.before library sort.castType value other = true ↔
      ordered library sort value < ordered library sort other := by
  obtain ⟨expression, direction⟩ := sort
  cases direction <;> exact decide_eq_true_iff

theorem lt_or_tie {Value : Type} [LinearOrder Value] {low high : Value} {tie : Prop} :
    low < high ∨ ¬ high < low ∧ tie ↔ low < high ∨ low = high ∧ tie := by
  rcases lt_trichotomy low high with less | same | greater
  · simp [less]
  · simp [same]
  · simp [greater, greater.ne', not_lt_of_gt greater]

theorem tieBefore_iff : tieBefore left right = true ↔
    (toLex (OrderDual.toDual left.createdAt, OrderDual.toDual left.id) : Intᵒᵈ ×ₗ Idᵒᵈ) <
      toLex (OrderDual.toDual right.createdAt, OrderDual.toDual right.id) := by
  simp [tieBefore, Prod.Lex.toLex_lt_toLex]

omit [LinearOrder Id] in
theorem value_isSome (library : Library Id) (sort : ResolvedSort Id) (notNull : sort.nullsLast = false) (issue : Issue Id) :
    (sort.value library issue).isSome = true := by
  obtain ⟨expression, direction⟩ := sort
  cases expression <;> first | rfl | contradiction

theorem rank_lt_rank : sort.rank library left < sort.rank library right ↔
    place library sort (sort.value library left) < place library sort (sort.value library right) ∨
      (place library sort (sort.value library left) = place library sort (sort.value library right) ∧
        tieBefore left right = true) := by
  rw [tieBefore_iff]
  exact Prod.Lex.toLex_lt_toLex

theorem before_iff_rank : sort.before library left right = true ↔
    sort.rank library left < sort.rank library right := by
  rw [rank_lt_rank]
  have leftSome := fun notNull => value_isSome library sort notNull left
  have rightSome := fun notNull => value_isSome library sort notNull right
  unfold ResolvedSort.before
  cases leftValue : sort.value library left with
  | none =>
      rw [leftValue] at leftSome
      cases rightValue : sort.value library right with
      | none => simp [place]
      | some value =>
          cases nulls : sort.nullsLast with
          | false => exact absurd (leftSome nulls) (by simp)
          | true => simp [place]
  | some value =>
      cases rightValue : sort.value library right with
      | none =>
          rw [rightValue] at rightSome
          cases nulls : sort.nullsLast with
          | false => exact absurd (rightSome nulls) (by simp)
          | true => simp [place]
      | some other =>
          simp only [place, Bool.or_eq_true, Bool.and_eq_true, Bool.not_eq_true', before_iff,
            WithTop.coe_lt_coe, WithTop.coe_inj, ← Bool.not_eq_true]
          exact lt_or_tie

theorem orderBy_iff : sort.orderBy library left right = true ↔
    sort.rank library left ≤ sort.rank library right := by
  rw [ResolvedSort.orderBy, Bool.not_eq_true', ← Bool.not_eq_true, before_iff_rank, not_lt]

def ResolvedSort.continueAfter (library : Library Id) (sort : ResolvedSort Id) (page : Cursor)
    (row : Issue Id) : Cursor :=
  let key := sort.expression.key library row
  { page with
    sortValue := key.map SortKey.text
    sortIsNull := key.isNone
    rowCreatedAt := library.formatTime row.createdAt
    rowID := library.uuidToString row.id }

/-- What packages and the database make of the texts of a row: they read back what they have
written. -/
structure Renders (library : Library Id) (sort : ResolvedSort Id) (row : Issue Id) : Prop where
  id : library.parseUUID (library.uuidToString row.id) = some row.id
  nonempty : library.uuidToString row.id ≠ ""
  createdAt : library.parseTime (library.formatTime row.createdAt) = some row.createdAt
  castsBack : ∀ key, sort.expression.key library row = some key →
    library.cast sort.castType key.text = some key.value
  numbers : ∀ key, sort.expression.key library row = some key →
    sort.castType = .doublePrecision ∨ sort.castType = .numeric ∨ sort.castType = .timestamptz →
      sort.castType.accepts library key.text = true

def ResolvedSort.readable (library : Library Id) (sort : ResolvedSort Id) (row : Issue Id) : Bool :=
  (sort.expression.key library row).all fun key => sort.castType.accepts library key.text

variable {page : Cursor} {row : Issue Id}

theorem cursorTie_eq (row issue : Issue Id) :
    cursorTie row.createdAt row.id issue = tieBefore row issue := by
  simp [cursorTie, tieBefore, eq_comm]

omit [LinearOrder Id] in
theorem equal_iff {value other : sort.castType.Value} :
    (!sort.castType.less library value other && !sort.castType.less library other value) = true ↔
      ordered library sort value = ordered library sort other := by
  have inDirection :
      (!sort.castType.less library value other && !sort.castType.less library other value) =
        (!sort.direction.before library sort.castType value other &&
          !sort.direction.before library sort.castType other value) := by
    cases sort.direction
    · rfl
    · exact Bool.and_comm _ _
  rw [inDirection, Bool.and_eq_true, Bool.not_eq_true', Bool.not_eq_true', ← Bool.not_eq_true,
    ← Bool.not_eq_true, before_iff, before_iff, not_lt, not_lt]
  constructor
  · rintro ⟨below, above⟩
    exact le_antisymm above below
  · intro same
    exact ⟨same.ge, same.le⟩

def ResolvedSort.wellFormed (sort : ResolvedSort Id) : Prop :=
  sort.expression = .position → sort.direction = .asc

theorem afterValue_iff (wellFormed : sort.wellFormed) {value : sort.castType.Value}
    (atRow : sort.value library row = some value) (issue : Issue Id) :
    sort.afterValue library value row.createdAt row.id issue = true ↔
      sort.rank library row < sort.rank library issue := by
  rw [rank_lt_rank, atRow, ResolvedSort.afterValue]
  cases atIssue : sort.value library issue with
  | none =>
      cases nulls : sort.nullsLast with
      | false =>
          have isSome := value_isSome library _ nulls issue
          rw [atIssue] at isSome
          contradiction
      | true => simp [place]
  | some key =>
      have exactly : (sort.direction.before library sort.castType value key ||
          (!sort.castType.less library key value && !sort.castType.less library value key &&
            cursorTie row.createdAt row.id issue)) = true ↔
          place library sort (some value) < place library sort (some key) ∨
            (place library sort (some value) = place library sort (some key) ∧
              tieBefore row issue = true) := by
        rw [Bool.or_eq_true, Bool.and_eq_true, equal_iff, before_iff, cursorTie_eq, place, place,
          WithTop.coe_lt_coe, WithTop.coe_inj, eq_comm (a := ordered library sort key)]
      simp only []
      split
      · rename_i isPosition
        rw [Bool.and_eq_true, exactly]
        -- the redundant lower bound of the position index
        refine and_iff_right_of_imp fun after => ?_
        have notBelow : ¬ ordered library sort key < ordered library sort value := by
          rcases after with less | ⟨same, -⟩
          · exact not_lt_of_gt (WithTop.coe_lt_coe.mp less)
          · exact not_lt_of_ge (WithTop.coe_inj.mp same).le
        rw [Bool.not_eq_true', ← Bool.not_eq_true]
        rwa [← before_iff, wellFormed isPosition, Direction.before] at notBelow
      · exact exactly

theorem cursorPredicate_continueAfter (wellFormed : sort.wellFormed)
    (renders : Renders library sort row) (readable : sort.readable library row = true) :
    ∃ predicate, sort.cursorPredicate library (some (sort.continueAfter library page row)) =
        .ok predicate ∧
      ∀ other, predicate other = true ↔ sort.rank library row < sort.rank library other := by
  cases here : sort.expression.key library row with
  | none =>
      have noValue : sort.value library row = none := by
        rw [ResolvedSort.value, here]
        rfl
      cases nulls : sort.nullsLast with
      | false =>
          have isSome := value_isSome library _ nulls row
          rw [noValue] at isSome
          contradiction
      | true =>
          refine ⟨fun issue => (sort.value library issue).isNone &&
            cursorTie row.createdAt row.id issue, ?_, fun other => ?_⟩
          · simp [ResolvedSort.cursorPredicate, ResolvedSort.continueAfter, here, renders.id,
              renders.nonempty, renders.createdAt, nulls]
          · simp only [rank_lt_rank, noValue, cursorTie_eq, Bool.and_eq_true]
            cases sort.value library other <;> simp [place]
  | some key =>
      have atRow : sort.value library row = some key.value := by
        rw [ResolvedSort.value, here]
        rfl
      have accepts : sort.castType.accepts library key.text = true := by
        rwa [ResolvedSort.readable, here, Option.all_some] at readable
      refine ⟨sort.afterValue library key.value row.createdAt row.id, ?_,
        afterValue_iff wellFormed atRow⟩
      simp [ResolvedSort.cursorPredicate, ResolvedSort.continueAfter, here, renders.id,
        renders.nonempty, renders.createdAt, accepts, renders.castsBack key here]

theorem cursorPredicate_refused (renders : Renders library sort row)
    (unreadable : sort.readable library row = false) :
    sort.cursorPredicate library (some (sort.continueAfter library page row)) =
      .error invalidCursor := by
  cases here : sort.expression.key library row with
  | none => simp [ResolvedSort.readable, here] at unreadable
  | some key =>
      have accepts : sort.castType.accepts library key.text = false := by
        rwa [ResolvedSort.readable, here, Option.all_some] at unreadable
      simp [ResolvedSort.cursorPredicate, ResolvedSort.continueAfter, here, renders.id,
        renders.nonempty, renders.createdAt, accepts]

end Ranks

section Readable

variable {library : Library Id} {sort : ResolvedSort Id} {row : Issue Id}

theorem isDigit_pad {width value : Nat} {char : Char} (member : char ∈ (pad width value).toList) :
    char.isDigit = true := by
  rw [pad, String.toList_ofList] at member
  rcases List.mem_append.mp member with zero | digit
  · rw [(List.mem_replicate.mp zero).2]
    rfl
  · exact Nat.isDigit_of_mem_toDigits (by decide) (by decide) digit

theorem length_pad (width value : Nat) :
    (pad width value).toList.length = max width (Nat.toDigits 10 value).length := by
  rw [pad, String.toList_ofList, List.length_append, List.length_replicate]
  omega

theorem length_pad_of_lt {width : Nat} (value : Nat) (positive : 0 < width) (fits : value < 10 ^ width) :
    (pad width value).toList.length = width := by
  have short := (Nat.length_toDigits_le_iff (b := 10) (by decide) positive).mpr fits
  rw [length_pad]
  omega

theorem ofDigitChars_pad (width value : Nat) :
    Nat.ofDigitChars 10 (pad width value).toList 0 = value := by
  rw [pad, String.toList_ofList]
  generalize width - (Nat.toDigits 10 value).length = zeros
  induction zeros with
  | zero => exact Nat.ofDigitChars_ten_toDigits
  | succ zeros ih => rwa [List.replicate_succ, List.cons_append, Nat.ofDigitChars_cons]

theorem toList_text (date : CalendarDate) : date.text.toList =
    if 1 ≤ date.year then
      (pad 4 date.year.toNat).toList ++ '-' :: (pad 2 date.month).toList ++ '-' :: (pad 2 date.day).toList
    else
      (pad 4 (1 - date.year).toNat).toList ++ '-' :: (pad 2 date.month).toList ++
        '-' :: (pad 2 date.day).toList ++ " BC".toList := by
  rw [CalendarDate.text]
  split <;> simp

theorem isLeap_mod (year : Nat) : isLeap (year % 400) = isLeap year := by
  have four : year % 400 % 4 = year % 4 := Nat.mod_mod_of_dvd _ (by decide)
  have hundred : year % 400 % 100 = year % 100 := Nat.mod_mod_of_dvd _ (by decide)
  simp only [isLeap, four, hundred, Nat.mod_mod]

/-- The years that the layout of the cursor's check has room for. -/
def CalendarDate.inLayout (date : CalendarDate) : Bool := 1 ≤ date.year ∧ date.year ≤ 9999

theorem parseDate_text (date : CalendarDate) : (parseDate date.text).isSome = date.inLayout := by
  rw [Bool.eq_iff_iff, CalendarDate.inLayout, decide_eq_true_eq]
  constructor
  · intro parsed
    have length := length_of_parseDate parsed
    rw [toList_text] at length
    split at length
    · rename_i common
      simp only [List.length_append, List.length_cons, length_pad] at length
      have digits : (Nat.toDigits 10 date.year.toNat).length ≤ 4 := by omega
      have small := (Nat.length_toDigits_le_iff (b := 10) (by decide) (by decide)).mp digits
      omega
    · simp only [List.length_append, List.length_cons, length_pad] at length
      have suffix : " BC".toList.length = 3 := by decide
      omega
  · rintro ⟨low, high⟩
    obtain ⟨monthLow, monthHigh, dayLow, dayHigh⟩ := date.valid
    have days : daysIn (date.year % 400).toNat date.month = daysIn date.year.toNat date.month := by
      have modulus : (date.year % 400).toNat = date.year.toNat % 400 := by omega
      simp only [daysIn, modulus, isLeap_mod]
    have month31 : daysIn date.year.toNat date.month ≤ 31 := by
      rw [daysIn]
      split <;> split <;> omega
    obtain ⟨y1, y2, y3, y4, year⟩ := List.length_eq_four.mp
      (length_pad_of_lt date.year.toNat (show 0 < 4 by decide) (by omega))
    obtain ⟨m1, m2, month⟩ := List.length_eq_two.mp
      (length_pad_of_lt date.month (show 0 < 2 by decide) (by omega))
    obtain ⟨d1, d2, day⟩ := List.length_eq_two.mp
      (length_pad_of_lt date.day (show 0 < 2 by decide) (by omega))
    have shape : date.text.toList = [y1, y2, y3, y4, '-', m1, m2, '-', d1, d2] := by
      rw [toList_text, if_pos low, year, month, day]
      rfl
    have digits : ([y1, y2, y3, y4] ++ [m1, m2] ++ [d1, d2]).all Char.isDigit = true := by
      rw [← year, ← month, ← day, List.all_eq_true]
      intro char member
      rcases List.mem_append.mp member with front | inDay
      · rcases List.mem_append.mp front with inYear | inMonth
        · exact isDigit_pad inYear
        · exact isDigit_pad inMonth
      · exact isDigit_pad inDay
    have yearValue := ofDigitChars_pad 4 date.year.toNat
    have monthValue := ofDigitChars_pad 2 date.month
    have dayValue := ofDigitChars_pad 2 date.day
    rw [year] at yearValue
    rw [month] at monthValue
    rw [day] at dayValue
    have valid : Date.valid ⟨date.year.toNat, date.month, date.day⟩ = true := by
      simp only [Date.valid, Bool.and_eq_true, decide_eq_true_eq]
      omega
    simp only [List.cons_append, List.nil_append] at digits
    simp only [parseDate, shape]
    rw [if_pos digits, yearValue, monthValue, dayValue, if_pos valid]
    rfl

def ResolvedSort.dateInLayout (sort : ResolvedSort Id) (row : Issue Id) : Bool :=
  match sort.expression with
  | .startDate => row.startDate.all CalendarDate.inLayout
  | .dueDate => row.dueDate.all CalendarDate.inLayout
  | _ => true

theorem parseInt_statusOrder (status : Status) :
    (parseInt (toString (statusOrder status))).isSome = true := by
  cases status <;> decide

theorem parseInt_priorityOrder (priority : Priority) :
    (parseInt (toString (priorityOrder priority))).isSome = true := by
  cases priority <;> decide

theorem readable_eq [LinearOrder Id] (renders : Renders library sort row) :
    sort.readable library row = sort.dateInLayout row := by
  obtain ⟨expression, direction⟩ := sort
  have numbers := renders.numbers
  cases expression with
  | position => exact numbers _ rfl (Or.inl rfl)
  | title => rfl
  | createdAt => exact numbers _ rfl (Or.inr (Or.inr rfl))
  | updatedAt => exact numbers _ rfl (Or.inr (Or.inr rfl))
  | startDate =>
      simp only [ResolvedSort.readable, ResolvedSort.dateInLayout, SortExpression.key]
      cases row.startDate with
      | none => rfl
      | some date => exact parseDate_text date
  | dueDate =>
      simp only [ResolvedSort.readable, ResolvedSort.dateInLayout, SortExpression.key]
      cases row.dueDate with
      | none => rfl
      | some date => exact parseDate_text date
  | status => exact parseInt_statusOrder row.status
  | priority => exact parseInt_priorityOrder row.priority
  | propertyNumber property =>
      refine Option.all_eq_true _ _ |>.mpr fun key here => ?_
      exact numbers key here (Or.inr (Or.inl rfl))
  | propertyText property => exact Option.all_eq_true _ _ |>.mpr fun _ _ => rfl

end Readable

end MulticaOS.IssueTable
