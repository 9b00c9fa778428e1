import MulticaOS.Cron.Mapping

/-!
The five-field grammar of the server's cron parser, transcribed from the reference
implementation in `cron-grammar.test.ts`.  A syntax error is `none`.  Whether the
server knows the zone of a `TZ=` prefix is not a question about the fields and is
left out.
-/

namespace MulticaOS.Cron.Reference

open TextLib

def lowerLetter (char : Char) : Char :=
  if 'A' ≤ char ∧ char ≤ 'Z' then Char.ofNat (char.toNat + 32)
  else if char.toNat = 0x212A then 'k'
  else char

def toLowerCase (text : Text) : Text := text.map lowerLetter

def monthNames : List (Text × Nat) :=
  [("jan".toList, 1), ("feb".toList, 2), ("mar".toList, 3), ("apr".toList, 4),
    ("may".toList, 5), ("jun".toList, 6), ("jul".toList, 7), ("aug".toList, 8),
    ("sep".toList, 9), ("oct".toList, 10), ("nov".toList, 11), ("dec".toList, 12)]

def dowNames : List (Text × Nat) :=
  [("sun".toList, 0), ("mon".toList, 1), ("tue".toList, 2), ("wed".toList, 3),
    ("thu".toList, 4), ("fri".toList, 5), ("sat".toList, 6)]

structure Bounds where
  min : Nat
  max : Nat
  names : List (Text × Nat)

def minuteBounds : Bounds := { min := 0, max := 59, names := [] }
def hourBounds : Bounds := { min := 0, max := 23, names := [] }
def domBounds : Bounds := { min := 1, max := 31, names := [] }
def monthBounds : Bounds := { min := 1, max := 12, names := monthNames }
def dowBounds : Bounds := { min := 0, max := 6, names := dowNames }

structure Field where
  values : List Nat
  star : Bool
  deriving DecidableEq

def atoi (token : Text) : Option Nat :=
  if isNumeral (unsigned token) then some (numeral (unsigned token)) else none

def parseIntOrName (token : Text) (bounds : Bounds) : Option Nat :=
  match bounds.names.lookup (toLowerCase token) with
  | some named => some named
  | none => atoi token

def getStep : Option Text → Option Nat
  | none => some 1
  | some stepStr =>
      match atoi stepStr with
      | none => none
      | some step => if step = 0 then none else some step

def getEnds (rangeStr : Text) (stepped : Bool) (bounds : Bounds) : Option (Nat × Nat × Bool) :=
  match rangeStr.splitOn '-' with
  | [] => none
  | low :: highs =>
      if low = ['*'] ∨ low = ['?'] then some (bounds.min, bounds.max, true)
      else
        match highs with
        | [] =>
            (parseIntOrName low bounds).map fun value =>
              (value, if stepped then bounds.max else value, false)
        | [high] =>
            match parseIntOrName low bounds, parseIntOrName high bounds with
            | some lowValue, some highValue => some (lowValue, highValue, false)
            | _, _ => none
        | _ => none

def getRange (expr : Text) (bounds : Bounds) : Option Field :=
  match expr.splitOn '/' with
  | [] => none
  | rangeStr :: stepStrs =>
      if stepStrs.length > 1 ∨ rangeStr = [] then none
      else
        match getStep stepStrs.head?, getEnds rangeStr stepStrs.head?.isSome bounds with
        | some step, some (low, high, star) =>
            if low < bounds.min ∨ bounds.max < high ∨ high < low then none
            else some { values := loopValues low high step, star := star && step = 1 }
        | _, _ => none

def parseField (expr : Text) (bounds : Bounds) : Option Field :=
  match (listElements expr).mapM (getRange · bounds) with
  | none => none
  | some fields =>
      some { values := fields.flatMap Field.values, star := fields.any Field.star }

structure Spec where
  minute : Field
  hour : Field
  dom : Field
  month : Field
  dow : Field
  deriving DecidableEq

/-- The text after a `TZ=` / `CRON_TZ=` prefix; `none` when a prefix has no space after it. -/
def referenceBody (expr : Text) : Option Text :=
  if !hasTimezonePrefix expr then some expr
  else if ' ' ∉ expr then none
  else some (trim (expr.dropWhile (· ≠ ' ')))

def referenceFields (expr : Text) : List Text :=
  match referenceBody expr with
  | none => []
  | some body => (splitSpaces (trim body)).filter (· ≠ [])

def reference (expr : Text) : Option Spec :=
  match referenceFields expr with
  | [minuteField, hourField, domField, monthField, dowField] => do
      let minute ← parseField minuteField minuteBounds
      let hour ← parseField hourField hourBounds
      let dom ← parseField domField domBounds
      let month ← parseField monthField monthBounds
      let dow ← parseField dowField dowBounds
      return { minute, hour, dom, month, dow }
  | _ => none

/-- Day-of-month and day-of-week are intersected while either is a wildcard, else united. -/
def dayMatches (spec : Spec) (dom dow : Nat) : Bool :=
  let domHit := dom ∈ spec.dom.values
  let dowHit := dow ∈ spec.dow.values
  if spec.dom.star || spec.dow.star then domHit && dowHit else domHit || dowHit

structure SameSchedule (before after : Spec) : Prop where
  minute : ∀ value, value ∈ before.minute.values ↔ value ∈ after.minute.values
  hour : ∀ value, value ∈ before.hour.values ↔ value ∈ after.hour.values
  month : ∀ value, value ∈ before.month.values ↔ value ∈ after.month.values
  day : ∀ dom dow, dayMatches before dom dow = dayMatches after dom dow

end MulticaOS.Cron.Reference
