import ServerConfig.Report
import ServerConfig.Source

/-!
# Sessions

A session is a sequence of operations on one configuration.  Operations that
read the configuration leave it as it is; an operation that fails leaves behind
what it had changed by then.
-/

namespace ServerConfig.Session

inductive Operation where
  /-- Begin with the default configuration. -/
  | reset
  /-- Load a configuration from a source in a directory. -/
  | load (directory : Directory) (source : Source)
  /-- Load a configuration from entries that stand for a source. -/
  | loadEntries (source : Source) (entries : Entries Datum)
  /-- Decode a configuration without validating it. -/
  | decode (entries : Entries Datum)
  /-- Replace the value of a setting. -/
  | put (field : Field) (value : field.kind.Carrier)
  | validate
  /-- Override settings, then validate. -/
  | override (environment : Environment)
  /-- Override settings without validating. -/
  | applyEnvironment (environment : Environment)
  | setAutoClean (autoClean : Bool)
  | allows (clients : List Whitelist.Client)
  | serverUrl
  | downloadUrl
  | dump
  | publicView
  | describe

inductive Answer where
  | done
  | verdicts (verdicts : List Bool)
  | url (url : Url)
  | text (text : String)
  | json (json : Json)

inductive Failure where
  | assembly (cause : AssemblyError)
  | faults (faults : List Fault)
  | report (cause : Report.Error)

open Validation (Outcome)

/-- An answer that leaves the configuration as it is. -/
def answer (configuration : Configuration) (result : Except Failure Answer) :
    Outcome Failure Answer :=
  { configuration, records := [], result }

/-- A loaded configuration takes the place of the one before. -/
def replace (configuration : Configuration)
    (loaded : List Log.Record × Except AssemblyError Configuration) : Outcome Failure Answer :=
  match loaded with
  | (records, .ok configuration) => { configuration, records, result := .ok .done }
  | (records, .error cause) => { configuration, records, result := .error (.assembly cause) }

def step (configuration : Configuration) : Operation → Outcome Failure Answer
  | .reset => answer .initial (.ok .done)
  | .load directory source =>
      replace configuration (Configuration.load directory.read source)
  | .loadEntries source entries =>
      replace configuration (Configuration.ofEntries source.name entries)
  | .decode entries =>
      match Decoding.settings entries with
      | .ok settings => answer (.ofSettings settings) (.ok .done)
      | .error faults => answer configuration (.error (.faults faults))
  | .put field value => answer (configuration.put field value) (.ok .done)
  | .validate =>
      let validated := Validation.validate configuration
      { validated with
        result :=
          match validated.result with
          | .ok _ => .ok .done
          | .error cause => .error (.assembly (.ofFailure cause)) }
  | .override environment =>
      let overridden := configuration.override environment
      { overridden with
        result :=
          match overridden.result with
          | .ok _ => .ok .done
          | .error cause => .error (.assembly cause) }
  | .applyEnvironment environment =>
      let applied := configuration.applyEnvironment environment
      { applied with
        result :=
          match applied.result with
          | .ok fields => .ok (.json (.array (fields.map fun field => .string field.variableName)))
          | .error cause => .error (.assembly (.coercion cause)) }
  | .setAutoClean autoClean => answer (configuration.setAutoClean autoClean) (.ok .done)
  | .allows clients => answer configuration (.ok (.verdicts (clients.map configuration.allows)))
  | .serverUrl => answer configuration (.ok (.url configuration.serverUrl))
  | .downloadUrl => answer configuration (.ok (.url configuration.downloadUrl))
  | .dump => answer configuration ((configuration.dump.map Answer.text).mapError .report)
  | .publicView => answer configuration (.ok (.json configuration.publicView))
  | .describe => answer configuration ((configuration.describe.map Answer.text).mapError .report)

/-- The configuration after a sequence of operations. -/
def run (configuration : Configuration) (operations : List Operation) : Configuration :=
  operations.foldl (fun configuration operation => (step configuration operation).configuration)
    configuration

end ServerConfig.Session
