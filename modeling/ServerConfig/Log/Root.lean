import ServerConfig.Log.Line
import ServerConfig.Log.Template
import ServerConfig.Text.Case

/-!
# The root of logging

All records of all loggers reach the handlers of the root if their level is at
least that of the root.  Configuring logging keeps exactly one handler of the
program, which writes to standard error; handlers that write to standard output
are removed when it is added.
-/

namespace ServerConfig.Log

/-- A standard stream of the program. -/
inductive Stream where
  | output
  | error
deriving DecidableEq, Repr

/-- A handler of the root.  Those that are not the program's are told apart by
numbers. -/
inductive Handler where
  /-- The handler of the program, which writes to standard error. -/
  | program (layout : Layout)
  /-- A handler that writes to standard output. -/
  | standardOutput (number : Nat)
  /-- A handler that writes elsewhere. -/
  | other (number : Nat)
deriving DecidableEq, Repr

/-- Whether a handler is that of the program. -/
def Handler.isProgram : Handler → Bool
  | .program _ => true
  | _ => false

/-- Whether a handler writes to standard output. -/
def Handler.isStandardOutput : Handler → Bool
  | .standardOutput _ => true
  | _ => false

structure Root where
  level : Level := Level.warning
  handlers : List Handler := []
deriving DecidableEq, Repr

/-- A request to log a message. -/
structure Request where
  level : Level
  logger : String := ""
  template : String
  arguments : List Datum := []
  extras : Entries Datum := []
  failure : Option Failure := none

/-- An extra with the name of an attribute that a record has of its own. -/
structure ReservedName where
  name : String
deriving DecidableEq, Repr

def ReservedName.message (failure : ReservedName) : String :=
  "Attempt to overwrite " ++ Text.quoted failure.name ++ " in LogRecord"

/-- The attributes that extras may not have the names of. -/
def reservedNames : List String :=
  attributeNames.filter (· != "taskName")

namespace Level

/-- The level of a name in any case; without a known name it is that of
information. -/
def ofName (name : String) : Level :=
  (named.lookup (Text.upperName name)).getD info

end Level

namespace Root

/-- Give the first handler of the program another layout. -/
def relayout (layout : Layout) : List Handler → List Handler
  | [] => []
  | .program _ :: rest => .program layout :: rest
  | handler :: rest => handler :: relayout layout rest

/-- Configure logging: choose the level of the root and the layout of the
handler of the program, which is added if it is missing. -/
def configure (root : Root) (level : String) (layout : Layout) : Root where
  level := Level.ofName level
  handlers :=
    if root.handlers.any Handler.isProgram then relayout layout root.handlers
    else root.handlers.filter (!·.isStandardOutput) ++ [.program layout]

/-- Add a handler, unless it is there already. -/
def add (root : Root) (handler : Handler) : Root :=
  if root.handlers.contains handler then root
  else { root with handlers := root.handlers ++ [handler] }

inductive Change where
  /-- Logging is configured; without a name for the level it is that of
  information. -/
  | configure (level : Option String) (layout : Layout)
  | addStandardOutput (number : Nat)
  | addOther (number : Nat)
deriving DecidableEq, Repr

def apply (root : Root) : Change → Root
  | .configure level layout => root.configure (level.getD "") layout
  | .addStandardOutput number => root.add (.standardOutput number)
  | .addOther number => root.add (.other number)

def applyAll (root : Root) (changes : List Change) : Root :=
  changes.foldl apply root

/-- Whether records of a level are logged.  Levels that are not positive never
are. -/
def isEnabled (root : Root) (level : Level) : Bool :=
  0 < level && root.level ≤ level

/-- What a handler writes to a stream for a record. -/
def written (record : Record) (time : Timestamp) : Stream → Handler → String
  | .error, .program layout =>
      if record.isWritable layout then record.line layout time ++ "\n" else ""
  | .output, .standardOutput _ => record.bareText ++ "\n"
  | _, _ => ""

/-- What is written to a stream for a record if there is no handler: the message
alone, to standard error, from warnings on. -/
def lastResort (record : Record) : Stream → String
  | .output => ""
  | .error => if Level.warning ≤ record.level then record.bareText ++ "\n" else ""

/-- What is written to a stream for a record. -/
def emit (root : Root) (record : Record) (time : Timestamp) (stream : Stream) : String :=
  if root.handlers.isEmpty then lastResort record stream
  else "".intercalate (root.handlers.map (written record time stream))

/-- What is written to a stream for a record of the program itself. -/
def logRecord (root : Root) (record : Record) (time : Timestamp) (stream : Stream) : String :=
  if root.isEnabled record.level then root.emit record time stream else ""

/-- The record of a request, if its template fits its arguments. -/
def Request.record? (request : Request) : Option Record :=
  (message? request.template request.arguments).map fun message =>
    { level := request.level
      logger := request.logger
      message
      extras := request.extras
      failure := request.failure }

/-- Carry out a request to log.  The result is what is written to a stream. -/
def log (root : Root) (request : Request) (time : Timestamp) (stream : Stream) :
    Except ReservedName String :=
  if !root.isEnabled request.level then .ok ""
  else
    match request.extras.find? fun extra => reservedNames.contains extra.1 with
    | some extra => .error ⟨extra.1⟩
    | none =>
        match Request.record? request with
        | some record => .ok (root.emit record time stream)
        | none => .ok ""

end Root

end ServerConfig.Log
