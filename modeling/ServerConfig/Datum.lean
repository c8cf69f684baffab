import ServerConfig.Json
import ServerConfig.Binary64.Decimal

/-!
# Loosely typed data

Configuration sources and log records hold values that are not JSON values
only: dates and times, and sets.  `Datum` covers all of them; `Datum.toJson?`
tells the JSON values from the others.
-/

namespace ServerConfig

structure Date where
  year : Nat
  month : Nat
  day : Nat
deriving DecidableEq, Repr

structure TimeOfDay where
  hour : Nat
  minute : Nat
  second : Nat
  microsecond : Nat
deriving DecidableEq, Repr

/-- A date, a time of day, or both, then with an optional offset from universal
time in minutes. -/
inductive Moment where
  | date (date : Date)
  | time (time : TimeOfDay)
  | dateTime (date : Date) (time : TimeOfDay) (offset : Option Int)
deriving DecidableEq, Repr

namespace Moment

/-- A number padded with zeros to a width. -/
def padded (width value : Nat) : String :=
  let digits := Numeral.ofNat value
  String.ofList (List.replicate (width - digits.length) '0' ++ digits)

/-- The days of a month in the Gregorian calendar. -/
def daysInMonth (year month : Nat) : Nat :=
  if month = 2 then
    if year % 4 = 0 && (year % 100 ≠ 0 || year % 400 = 0) then 29 else 28
  else if month = 4 || month = 6 || month = 9 || month = 11 then 30
  else 31

/-- Whether a date exists in the Gregorian calendar from year 1 on. -/
def isDate (day : Date) : Bool :=
  1 ≤ day.year && 1 ≤ day.month && day.month ≤ 12 && 1 ≤ day.day &&
    day.day ≤ daysInMonth day.year day.month

def dateText (day : Date) : String :=
  padded 4 day.year ++ "-" ++ padded 2 day.month ++ "-" ++ padded 2 day.day

/-- A time of day in ISO 8601 form, with microseconds unless there are none. -/
def timeText (clock : TimeOfDay) : String :=
  padded 2 clock.hour ++ ":" ++ padded 2 clock.minute ++ ":" ++ padded 2 clock.second ++
    (if clock.microsecond = 0 then "" else "." ++ padded 6 clock.microsecond)

/-- An offset from universal time in ISO 8601 form. -/
def offsetText (offset : Int) : String :=
  (if offset < 0 then "-" else "+") ++ padded 2 (offset.natAbs / 60) ++ ":" ++
    padded 2 (offset.natAbs % 60)

/-- A moment in ISO 8601 form. -/
def toText : Moment → String
  | .date day => dateText day
  | .time clock => timeText clock
  | .dateTime day clock offset =>
      dateText day ++ "T" ++ timeText clock ++ (offset.map offsetText).getD ""

/-- A moment as a text of its own: ISO 8601 with a blank between the date and
the time of day. -/
def spacedText : Moment → String
  | .dateTime day clock offset =>
      dateText day ++ " " ++ timeText clock ++ (offset.map offsetText).getD ""
  | moment => moment.toText

def dateNumbers (day : Date) : List Nat :=
  [day.year, day.month, day.day]

/-- The numbers of a time of day, without the zeros of seconds and microseconds
at its end. -/
def timeNumbers (clock : TimeOfDay) : List Nat :=
  if clock.microsecond ≠ 0 then [clock.hour, clock.minute, clock.second, clock.microsecond]
  else if clock.second ≠ 0 then [clock.hour, clock.minute, clock.second]
  else [clock.hour, clock.minute]

/-- A call with its arguments. -/
def call (name : String) (arguments : List String) : String :=
  name ++ "(" ++ ", ".intercalate arguments ++ ")"

/-- A named argument of a call, left out where it is zero. -/
def nonzeroArgument (name : String) (value : Int) : List String :=
  if value = 0 then [] else [name ++ "=" ++ String.ofList (Numeral.ofInt value)]

/-- The call that constructs a zone with an offset from universal time; the days
of an offset round it down. -/
def zoneCall (offset : Int) : String :=
  if offset = 0 then "datetime.timezone.utc"
  else
    call "datetime.timezone" [call "datetime.timedelta"
      (nonzeroArgument "days" (offset / 1440) ++
        nonzeroArgument "seconds" (offset % 1440 * 60))]

/-- A moment as the call that constructs it. -/
def constructorCall (moment : Moment) : String :=
  let numbers := List.map fun n => String.ofList (Numeral.ofNat n)
  match moment with
  | .date day => call "datetime.date" (numbers (dateNumbers day))
  | .time clock => call "datetime.time" (numbers (timeNumbers clock))
  | .dateTime day clock offset =>
      call "datetime.datetime" (numbers (dateNumbers day ++ timeNumbers clock) ++
        (offset.map fun offset => "tzinfo=" ++ zoneCall offset).toList)

end Moment

/-- A value of a configuration source or a log record. -/
inductive Datum where
  | null
  | bool (value : Bool)
  | integer (value : Int)
  | float (value : Binary64)
  | string (value : String)
  | moment (value : Moment)
  | array (items : List Datum)
  | table (entries : List (String × Datum))
  | set (items : List Datum)
deriving Inhabited, Repr

namespace Datum

mutual

/-- The JSON value that a datum is, if it is one. -/
def toJson? : Datum → Option Json
  | .null => some .null
  | .bool value => some (.bool value)
  | .integer value => some (.integer value)
  | .float value => some (.float value)
  | .string value => some (.string value)
  | .moment _ => none
  | .array items => (itemsToJson? items).map .array
  | .table entries => (entriesToJson? entries).map .object
  | .set _ => none

def itemsToJson? : List Datum → Option (List Json)
  | [] => some []
  | item :: rest => do
      let item ← toJson? item
      let rest ← itemsToJson? rest
      return item :: rest

def entriesToJson? : List (String × Datum) → Option (List (String × Json))
  | [] => some []
  | (name, value) :: rest => do
      let value ← toJson? value
      let rest ← entriesToJson? rest
      return (name, value) :: rest

end

mutual

/-- A JSON value as a datum. -/
def ofJson : Json → Datum
  | .null => .null
  | .bool value => .bool value
  | .integer value => .integer value
  | .float value => .float value
  | .string value => .string value
  | .array items => .array (ofJsonItems items)
  | .object members => .table (ofJsonMembers members)

def ofJsonItems : List Json → List Datum
  | [] => []
  | item :: rest => ofJson item :: ofJsonItems rest

def ofJsonMembers : List (String × Json) → List (String × Datum)
  | [] => []
  | (name, value) :: rest => (name, ofJson value) :: ofJsonMembers rest

end

mutual

/-- How a datum is shown in a report: texts are quoted, moments are calls, and
the constants are `None`, `True` and `False`. -/
def display : Datum → String
  | .null => "None"
  | .bool value => if value then "True" else "False"
  | .integer value => String.ofList (Numeral.ofInt value)
  | .float value => String.ofList value.toText
  | .string value => Text.quoted value
  | .moment value => value.constructorCall
  | .array items => "[" ++ ", ".intercalate (displayItems items) ++ "]"
  | .table entries => "\x7b" ++ ", ".intercalate (displayEntries entries) ++ "\x7d"
  | .set [] => "set()"
  | .set items => "\x7b" ++ ", ".intercalate (displayItems items) ++ "\x7d"

def displayItems : List Datum → List String
  | [] => []
  | item :: rest => display item :: displayItems rest

def displayEntries : List (String × Datum) → List String
  | [] => []
  | (name, value) :: rest => (Text.quoted name ++ ": " ++ display value) :: displayEntries rest

end

/-- A datum as a text of its own: texts stand for themselves, and moments are
written out. -/
def text : Datum → String
  | .string value => value
  | .moment value => value.spacedText
  | datum => datum.display

mutual

/-- Whether no integer in a datum exceeds the digit limit. -/
def isWritable : Datum → Bool
  | .integer value => (Numeral.ofNat value.natAbs).length ≤ Numeral.digitLimit
  | .array items => areWritable items
  | .table entries => entriesWritable entries
  | .set items => areWritable items
  | _ => true

def areWritable : List Datum → Bool
  | [] => true
  | item :: rest => isWritable item && areWritable rest

def entriesWritable : List (String × Datum) → Bool
  | [] => true
  | (_, value) :: rest => isWritable value && entriesWritable rest

end

/-- The display of a datum, unless an integer in it exceeds the digit limit. -/
def shown (datum : Datum) : Except Numeral.Error String :=
  if datum.isWritable then .ok datum.display else .error .unwritable

end Datum

end ServerConfig
