import ServerConfig.Environment
import ServerConfig.Source

/-!
# Bootstrap settings

Before a configuration is known, two variables of the environment tell where it
is and how to log.  Their names are recognised in any case; of several variables
of the same name the last one counts.
-/

namespace ServerConfig.Command

/-- The settings that are needed to load a configuration. -/
structure Bootstrap where
  /-- The source of the configuration. -/
  source : Source := .packaged
  /-- The text of the variable that chose the source. -/
  sourceText : Option String := none
  /-- Whether to log JSON objects. -/
  jsonLogs : Bool := false
deriving DecidableEq, Repr

namespace Bootstrap

/-- The identifiers of the settings, which are also the ends of their
variables' names. -/
def sourceName : String := "CONFIG"
def jsonLogsName : String := "LOG_JSON"

/-- The text of a variable whose name is recognised in any case. -/
def text? (environment : Environment) (name : String) : Option String :=
  let wanted := Text.lower (VariableName.start ++ name).toList
  (environment.reverse.find? fun entry => Text.lower entry.1.toList == wanted).map Prod.snd

def ofEnvironment (environment : Environment) : Decoded Bootstrap := do
  let sourceText := text? environment sourceName
  let source := (sourceText.map Source.ofText).getD .packaged
  match text? environment jsonLogsName with
  | none => return { source, sourceText }
  | some text =>
      let jsonLogs ← Decoding.under (.name jsonLogsName) (Decoding.readFlag text)
      return { source, sourceText, jsonLogs }

/-- The text that chose the source, or the name of the packaged one. -/
def shownSource (bootstrap : Bootstrap) : String :=
  bootstrap.sourceText.getD Packaged.name

end Bootstrap

end ServerConfig.Command
