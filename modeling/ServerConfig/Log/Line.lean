import ServerConfig.Json.Writer
import ServerConfig.Log.Record

/-!
# Log lines

A record is written either as a line for people or as a JSON object on one
line.  The object starts with the time, the level, the logger and the message;
extras follow, and one that has the name of an earlier member replaces its
value.
-/

namespace ServerConfig.Log

/-- A point in time, as a line for people shows it and as an object holds it. -/
structure Timestamp where
  shown : String
  precise : String

/-- A date and a time of day in universal time. -/
def Timestamp.ofUniversal (date : Date) (time : TimeOfDay) : Timestamp where
  shown := (Moment.dateTime date { time with microsecond := 0 } none).toText ++ "+0000"
  precise := (Moment.dateTime date time (some 0)).toText

inductive Layout where
  | human
  | json
deriving DecidableEq, Repr

def Failure.toText (failure : Failure) : String :=
  if failure.text.isEmpty then failure.kind else failure.kind ++ ": " ++ failure.text

/-- A text with the text of an error on a line after it. -/
def withFailure (text : String) : Option Failure → String
  | none => text
  | some failure =>
      if text.toList.getLast? = some '\n' then text ++ failure.toText
      else text ++ "\n" ++ failure.toText

/-- A record as its message alone. -/
def Record.bareText (record : Record) : String :=
  withFailure record.message record.failure

/-- The name of a record's logger; the root logger has no name of its own. -/
def Record.loggerName (record : Record) : String :=
  if record.logger.isEmpty then "root" else record.logger

/-- A record as a line for people. -/
def Record.humanLine (record : Record) (time : Timestamp) : String :=
  withFailure
    (time.shown ++ " " ++ record.level.shownName ++ " " ++ record.loggerName ++ " " ++
      record.message)
    record.failure

/-- The attributes that every record has.  Extras with these names are not
written. -/
def attributeNames : List String :=
  ["name", "msg", "args", "levelname", "levelno", "pathname", "filename", "module", "exc_info",
   "exc_text", "stack_info", "lineno", "funcName", "created", "msecs", "relativeCreated",
   "thread", "threadName", "processName", "process", "taskName", "message", "asctime"]

def isWritten (name : String) : Bool :=
  name.toList.head? != some '_' && !attributeNames.contains name

/-- The value of an extra: itself where it is a JSON value that can be written,
or else its text. -/
def extraValue (datum : Datum) : Json :=
  match datum.toJson? with
  | some json => if json.isWritable then json else .string datum.text
  | none => .string datum.text

/-- The members with which every object starts. -/
def Record.coreMembers (record : Record) (time : Timestamp) : Json.Members :=
  [("timestamp", .string time.precise), ("level", .string record.level.shownName),
   ("logger", .string record.loggerName), ("message", .string record.message)]

def Record.writtenExtras (record : Record) : Json.Members :=
  (record.extras.filter fun extra => isWritten extra.1).map fun extra =>
    (extra.1, extraValue extra.2)

/-- The members of the object of a record. -/
def Record.members (record : Record) (time : Timestamp) : Json.Members :=
  let extended := record.writtenExtras.foldl (fun members extra =>
    Entries.insert extra.1 extra.2 members) (record.coreMembers time)
  match record.failure with
  | none => extended
  | some failure => Entries.insert "exc_info" (.string failure.toText) extended

/-- A record as a JSON object on one line. -/
def Record.jsonLine (record : Record) (time : Timestamp) : String :=
  String.ofList (Json.object (record.members time)).render

/-- Whether a record can be written in a layout: an object holds the extras, of
which no integer may exceed the digit limit. -/
def Record.isWritable (record : Record) : Layout → Bool
  | .human => true
  | .json => (record.extras.filter fun extra => isWritten extra.1).all (·.2.isWritable)

def Record.line (record : Record) (layout : Layout) (time : Timestamp) : String :=
  match layout with
  | .human => record.humanLine time
  | .json => record.jsonLine time

end ServerConfig.Log
