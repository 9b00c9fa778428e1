import Mathlib
import MulticaOS.Lib.Text

/-!
The schedule editor's reading and writing of cron expressions, translated from
`cron-mapping.ts` and `model.ts`.  Texts are character lists; the browser's zone
lookup (`Intl.DateTimeFormat`) is the parameter `canonicalPickerZone`.
-/

namespace MulticaOS.Cron

open TextLib

structure FieldBounds where
  min : Nat
  max : Nat
  names : List (Text × Nat)

def dowNames : List (Text × Nat) :=
  [("SUN".toList, 0), ("MON".toList, 1), ("TUE".toList, 2), ("WED".toList, 3),
    ("THU".toList, 4), ("FRI".toList, 5), ("SAT".toList, 6)]

def monthNames : List (Text × Nat) :=
  [("JAN".toList, 1), ("FEB".toList, 2), ("MAR".toList, 3), ("APR".toList, 4),
    ("MAY".toList, 5), ("JUN".toList, 6), ("JUL".toList, 7), ("AUG".toList, 8),
    ("SEP".toList, 9), ("OCT".toList, 10), ("NOV".toList, 11), ("DEC".toList, 12)]

def minuteBounds : FieldBounds := { min := 0, max := 59, names := [] }
def hourBounds : FieldBounds := { min := 0, max := 23, names := [] }
def domBounds : FieldBounds := { min := 1, max := 31, names := [] }
def monthBounds : FieldBounds := { min := 1, max := 12, names := monthNames }
def dowBounds : FieldBounds := { min := 0, max := 6, names := dowNames }

structure RangePart where
  lo : Nat
  hi : Nat
  step : Nat
  wildcard : Bool
  stepped : Bool
  explicitRange : Bool
  deriving DecidableEq

/-- `toUpperCase` on one character, where its result can be part of a name.
Besides `a`-`z` only `ſ` and `ı` have a single ASCII letter as upper case; no
name contains a sequence such as `SS` or `FI` that another character expands to. -/
def upperLetter (char : Char) : Char :=
  if 'a' ≤ char ∧ char ≤ 'z' then Char.ofNat (char.toNat - 32)
  else if char = 'ſ' then 'S'
  else if char = 'ı' then 'I'
  else char

def toUpperCase (text : Text) : Text := text.map upperLetter

def isSafeInteger (value : Nat) : Bool := value ≤ 2 ^ 53 - 1

def fieldValue (text : Text) (bounds : FieldBounds) : Option Nat :=
  match bounds.names.lookup (toUpperCase text) with
  | some named => some named
  | none =>
      if isNumeral text then
        let value := numeral text
        if !isSafeInteger value || value < bounds.min || bounds.max < value then none
        else some value
      else none

def parseStep : Option Text → Option Nat
  | none => some 1
  | some stepStr =>
      if isNumeral stepStr then
        let step := numeral stepStr
        if !isSafeInteger step || step < 1 then none else some step
      else none

def parseRange (rangeStr : Text) (step : Nat) (stepped : Bool) (bounds : FieldBounds) :
    Option RangePart :=
  if rangeStr = ['*'] then
    some { lo := bounds.min, hi := bounds.max, step, wildcard := true, stepped,
           explicitRange := false }
  else
    match rangeStr.splitOn '-' with
    | [loStr] =>
        match fieldValue loStr bounds with
        | none => none
        | some lo =>
            let hi := if stepped then bounds.max else lo
            if hi < lo then none
            else some { lo, hi, step, wildcard := false, stepped, explicitRange := false }
    | [loStr, hiStr] =>
        match fieldValue loStr bounds, fieldValue hiStr bounds with
        | some lo, some hi =>
            if hi < lo then none
            else some { lo, hi, step, wildcard := false, stepped, explicitRange := true }
        | _, _ => none
    | _ => none

def parseRangePart (part : Text) (bounds : FieldBounds) : Option RangePart :=
  match part.splitOn '/' with
  | [] => none
  | rangeStr :: stepStrs =>
      if stepStrs.length > 1 ∨ rangeStr = [] then none
      else
        match parseStep stepStrs.head? with
        | none => none
        | some step => parseRange rangeStr step stepStrs.head?.isSome bounds

def plainValue (field : Text) (bounds : FieldBounds) : Option Nat :=
  match parseRangePart field bounds with
  | none => none
  | some range =>
      if range.wildcard || range.stepped || range.explicitRange then none else some range.lo

/-- The loop `for (let v = low; v <= high; v += step)`; the fuel bounds its length. -/
def loopFrom : Nat → Nat → Nat → Nat → List Nat
  | 0, _, _, _ => []
  | fuel + 1, value, high, step =>
      if value ≤ high then value :: loopFrom fuel (value + step) high step else []

def loopValues (low high step : Nat) : List Nat := loopFrom (high + 1) low high step

def sortedSet (days : List Nat) : List Nat := days.dedup.insertionSort (· ≤ ·)

def expandDow (field : Text) : Option (List Nat) :=
  match (field.splitOn ',').mapM (parseRangePart · dowBounds) with
  | none => none
  | some ranges =>
      let days := ranges.flatMap fun range => loopValues range.lo range.hi range.step
      if days = [] then none else some (sortedSet days)

def runsFrom : Nat → Nat → List Nat → List (Nat × Nat)
  | lo, hi, [] => [(lo, hi)]
  | lo, hi, next :: rest =>
      if next = hi + 1 then runsFrom lo next rest else (lo, hi) :: runsFrom next next rest

def consecutiveRuns (days : List Nat) : List (Nat × Nat) :=
  match sortedSet days with
  | [] => []
  | first :: rest => runsFrom first first rest

def runText (run : Nat × Nat) : Text :=
  if run.2 > run.1 then decimal run.1 ++ '-' :: decimal run.2 else decimal run.1

def dowFieldFromDays (days : List Nat) : Text :=
  join ',' ((consecutiveRuns days).map runText)

def pad2 (value : Nat) : Text :=
  List.replicate (2 - (decimal value).length) '0' ++ decimal value

def parseInt (text : Text) : Nat := numeral (text.takeWhile Char.isDigit)

def timeParts (time : Text) : Nat × Nat :=
  match time.splitOn ':' with
  | hour :: minute :: _ => (parseInt hour, parseInt minute)
  | hour :: [] => (parseInt hour, 0)
  | [] => (0, 0)

structure Window where
  fromTime : Text
  toTime : Text
  deriving DecidableEq

inductive TimeUnit where
  | minutes
  | hours
  deriving DecidableEq

inductive TimePattern where
  | at (time : Text)
  | every (interval : Nat) (unit : TimeUnit) (window : Option Window) (minute : Nat)
  deriving DecidableEq

inductive DayPattern where
  | every
  | weekly (daysOfWeek : List Nat)
  | monthly (dayOfMonth : Nat)
  deriving DecidableEq

structure ScheduleConfig where
  time : TimePattern
  days : DayPattern
  timezone : Text
  raw : Option Text
  deriving DecidableEq

def getDefaultScheduleConfig (timezone : Text) : ScheduleConfig :=
  { time := .at "09:00".toList, days := .every, timezone, raw := none }

structure HourPattern where
  interval : Nat
  range : Option (Nat × Nat)

def parseHourPattern (field : Text) : Option HourPattern :=
  match parseRangePart field hourBounds with
  | none => none
  | some range =>
      if hourBounds.max < range.step then none
      else
        let spansDay := range.wildcard ||
          (range.lo = hourBounds.min && range.hi = hourBounds.max)
        some { interval := range.step, range := if spansDay then none else some (range.lo, range.hi) }

def parseMinuteInterval (field : Text) : Option Nat :=
  match parseRangePart field minuteBounds with
  | none => none
  | some range =>
      if range.explicitRange || minuteBounds.max < range.step then none
      else if range.lo ≠ minuteBounds.min then none
      else if !range.stepped && !range.wildcard then none
      else some range.step

def clock (hour minute : Nat) : Text := pad2 hour ++ ':' :: pad2 minute

def parseTimeFields (minuteField hourField : Text) : Option TimePattern :=
  match plainValue minuteField minuteBounds with
  | some plainMinute =>
      match plainValue hourField hourBounds with
      | some plainHour => some (.at (clock plainHour plainMinute))
      | none =>
          match parseHourPattern hourField with
          | none => none
          | some hour =>
              let window := hour.range.map fun range =>
                { fromTime := clock range.1 plainMinute, toTime := clock range.2 plainMinute }
              some (.every hour.interval .hours window plainMinute)
  | none =>
      match parseMinuteInterval minuteField with
      | none => none
      | some interval =>
          match parseHourPattern hourField with
          | none => none
          | some hour =>
              match hour.range with
              | none =>
                  if hour.interval ≠ 1 then none else some (.every interval .minutes none 0)
              | some (lo, hi) =>
                  let selectsOneHour := hour.interval > hi - lo
                  if !selectsOneHour && hour.interval ≠ 1 then none
                  else
                    let window := {
                      fromTime := pad2 lo ++ ":00".toList
                      toTime := pad2 (if selectsOneHour then lo else hi) ++ ":59".toList }
                    some (.every interval .minutes (some window) 0)

def canonicalNumeral (pending : Text) : Text :=
  if unsigned pending = [] then pending
  else if isSafeInteger (numeral (unsigned pending)) then decimal (numeral (unsigned pending))
  else pending

/-- `part.replace(/\+?\d+/g, ...)`: `pending` is the match being read. -/
def replaceNumerals : Text → Text → Text
  | pending, [] => canonicalNumeral pending
  | pending, char :: rest =>
      if char.isDigit then replaceNumerals (pending ++ [char]) rest
      else if char = '+' then canonicalNumeral pending ++ replaceNumerals ['+'] rest
      else canonicalNumeral pending ++ char :: replaceNumerals [] rest

def isWildcardEnd (low : Text) : Bool := low = ['*'] || low = ['?']

def normalizeRange (part : Text) : Text :=
  let range := part.takeWhile (· ≠ '/')
  let step := part.dropWhile (· ≠ '/')
  if isWildcardEnd ((range.splitOn '-').headD []) then '*' :: step else part

def listElements (field : Text) : List Text := (field.splitOn ',').filter (· ≠ [])

def normalizeField (field : Text) : Text :=
  join ',' ((listElements field).map fun part => replaceNumerals [] (normalizeRange part))

def collapseDegenerateRange (field : Text) (bounds : FieldBounds) (rangeSlot : Bool) : Text :=
  join ',' ((field.splitOn ',').map fun part =>
    match parseRangePart part bounds with
    | none => part
    | some range =>
        if rangeSlot && !range.stepped then part
        else if rangeSlot && range.explicitRange && range.step ≤ bounds.max then part
        else if range.step > range.hi - range.lo then decimal range.lo
        else part)

def collapseWildcardList (field : Text) (bounds : FieldBounds) : Text :=
  let parts := field.splitOn ','
  if parts.length < 2 then field
  else
    match parts.mapM (parseRangePart · bounds) with
    | none => field
    | some ranges =>
        if ranges.any fun range => range.wildcard && range.step = 1 then ['*'] else field

def hasTimezonePrefix (text : Text) : Bool :=
  "TZ=".toList.isPrefixOf text || "CRON_TZ=".toList.isPrefixOf text

structure TimezonePrefix where
  timezone : Text
  rest : Text

section PickerZone

variable (canonicalPickerZone : Text → Option Text)

def extractTimezonePrefix (expr : Text) : Option TimezonePrefix :=
  if !hasTimezonePrefix expr then none
  else if ' ' ∉ expr then none
  else
    let name := ((expr.takeWhile (· ≠ ' ')).dropWhile (· ≠ '=')).tail
    let rest := trim (expr.dropWhile (· ≠ ' '))
    if rest = [] then none
    else if hasTimezonePrefix rest then none
    else
      match canonicalPickerZone (if name = [] then "UTC".toList else name) with
      | none => none
      | some timezone => some { timezone, rest }

def parseDays (domField dowField : Text) : Option DayPattern :=
  if domField = ['*'] then
    if dowField = ['*'] then some .every
    else
      match expandDow dowField with
      | none => none
      | some daysOfWeek => some (.weekly daysOfWeek)
  else if dowField ≠ ['*'] then none
  else
    match plainValue domField domBounds with
    | none => none
    | some dayOfMonth => some (.monthly dayOfMonth)

def parseCron (expr timezone : Text) : ScheduleConfig :=
  let extracted := extractTimezonePrefix canonicalPickerZone expr
  let tz := match extracted with
    | none => timezone
    | some found => found.timezone
  let body := match extracted with
    | none => expr
    | some found => found.rest
  let advanced := { getDefaultScheduleConfig tz with raw := some body }
  match (splitSpaces (trim body)).map normalizeField with
  | [rawMinute, rawHour, rawDom, rawMonth, rawDow] =>
      let minuteField := collapseDegenerateRange (collapseWildcardList rawMinute minuteBounds)
        minuteBounds false
      let hourField := collapseDegenerateRange (collapseWildcardList rawHour hourBounds)
        hourBounds true
      let domField := collapseDegenerateRange (collapseWildcardList rawDom domBounds)
        domBounds false
      let monthField := collapseWildcardList rawMonth monthBounds
      let dowField := collapseWildcardList rawDow dowBounds
      if monthField ≠ ['*'] then advanced
      else
        match parseDays domField dowField, parseTimeFields minuteField hourField with
        | some days, some time => { time, days, timezone := tz, raw := none }
        | _, _ => advanced
  | _ => advanced

end PickerZone

def dayFields : DayPattern → Text × Text
  | .every => (['*'], ['*'])
  | .weekly daysOfWeek =>
      (['*'], if daysOfWeek.length > 0 then dowFieldFromDays daysOfWeek else ['1'])
  | .monthly dayOfMonth => (decimal dayOfMonth, ['*'])

def timeFields : TimePattern → Text × Text
  | .at time => (decimal (timeParts time).2, decimal (timeParts time).1)
  | .every interval .hours none minute =>
      (decimal minute, if interval = 1 then ['*'] else '*' :: '/' :: decimal interval)
  | .every interval .hours (some window) _ =>
      let start := timeParts window.fromTime
      let stop := timeParts window.toTime
      let hours := decimal start.1 ++ '-' :: decimal stop.1
      (decimal start.2, if interval = 1 then hours else hours ++ '/' :: decimal interval)
  | .every interval .minutes window _ =>
      (if interval = 1 then ['*'] else '*' :: '/' :: decimal interval,
        match window with
        | none => ['*']
        | some window =>
            let start := timeParts window.fromTime
            let stop := timeParts window.toTime
            if start.1 = stop.1 then decimal start.1
            else decimal start.1 ++ '-' :: decimal stop.1)

def cronFields (config : ScheduleConfig) : Text :=
  match config.raw with
  | some raw => raw
  | none =>
      let (dom, dow) := dayFields config.days
      let (minuteField, hourField) := timeFields config.time
      join ' ' [minuteField, hourField, dom, ['*'], dow]

def toCron (config : ScheduleConfig) : Text :=
  let fields := cronFields config
  if hasTimezonePrefix fields then fields
  else if fields = [] ∨ fields ≠ trim fields then fields
  else if config.timezone = [] ∨ ' ' ∈ config.timezone then fields
  else "TZ=".toList ++ config.timezone ++ ' ' :: fields

end MulticaOS.Cron
