import ServerConfig.Datum

/-!
# Log records

A record has a level, the name of its logger, a message and extras, which are
named values beside the message.
-/

namespace ServerConfig.Log

/-- Levels are numbers; a higher one is more severe. -/
abbrev Level := Int

namespace Level

def debug : Level := 10
def info : Level := 20
def warning : Level := 30
def error : Level := 40
def critical : Level := 50
def unset : Level := 0

/-- The names by which levels can be chosen. -/
def named : List (String × Level) :=
  [("CRITICAL", critical), ("FATAL", critical), ("ERROR", error), ("WARN", warning),
   ("WARNING", warning), ("INFO", info), ("DEBUG", debug), ("NOTSET", unset)]

/-- The name under which a level is shown. -/
def shownName (level : Level) : String :=
  if level = critical then "CRITICAL"
  else if level = error then "ERROR"
  else if level = warning then "WARNING"
  else if level = info then "INFO"
  else if level = debug then "DEBUG"
  else if level = unset then "NOTSET"
  else "Level " ++ String.ofList (Numeral.ofInt level)

end Level

/-- An error that a record reports beside its message. -/
structure Failure where
  kind : String
  text : String
deriving DecidableEq, Repr

structure Record where
  level : Level
  logger : String
  message : String
  extras : Entries Datum := []
  failure : Option Failure := none
deriving Repr, Inhabited

/-- Names as the value of an extra. -/
def namesDatum (names : List String) : Datum :=
  .array (names.map .string)

end ServerConfig.Log
