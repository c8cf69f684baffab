import ServerConfig.Decoding
import ServerConfig.Validation

/-!
# Overrides from the environment

Variables of the environment override settings, in the order of the fields.  A
variable whose text is no value of its setting ends the overriding; the settings
that were overridden before it stay so.
-/

namespace ServerConfig

abbrev Environment := Entries String

/-- The variables of a block of texts `NAME=value` that each end with a null
character. -/
def Environment.ofBlock (block : String) : Environment :=
  (Text.pieces '\x00' block.toList).filterMap fun binding =>
    match Text.cutFirst '=' binding with
    | (name, some value) => some (String.ofList name, String.ofList value)
    | (_, none) => none

/-- A variable whose text is no value of the setting it overrides. -/
structure Coercion where
  field : Field
  text : String
deriving DecidableEq, Repr

def Coercion.message (failure : Coercion) : String :=
  "invalid value " ++ Text.quoted failure.text ++ " for environment variable " ++
    failure.field.variableName ++ ": expected " ++ failure.field.kind.expectation

/-- The variable of the setting with a given name; any other text is taken for
the identifier of a setting. -/
def Field.variableOf (name : String) : String :=
  match Field.ofName? name with
  | some field => field.variableName
  | none => VariableName.ofIdentifier name

namespace Environment

/-- The text of the variable that overrides a setting. -/
def text? (environment : Environment) (field : Field) : Option String :=
  environment.lookup field.variableName

/-- Once a numeric setting is overridden, its textual form no longer counts,
unless that is overridden too. -/
def releaseTextForm (environment : Environment) (field : Field) (settings : Settings) : Settings :=
  match field with
  | .maxFileSize =>
      if (environment.text? .maxFileSizeText).isSome then settings
      else { settings with maxFileSizeText := "" }
  | .defaultLifetime =>
      if (environment.text? .defaultLifetimeText).isSome then settings
      else { settings with defaultLifetimeText := "" }
  | .maxLifetime =>
      if (environment.text? .maxLifetimeText).isSome then settings
      else { settings with maxLifetimeText := "" }
  | _ => settings

/-- Override settings field by field.  The result is the fields that were
overridden. -/
def overrideFields (environment : Environment) :
    List Field → Settings → Settings × Except Coercion (List Field)
  | [], settings => (settings, .ok [])
  | field :: rest, settings =>
      match environment.text? field with
      | none => overrideFields environment rest settings
      | some text =>
          match Decoding.ofText field.kind text with
          | .error _ => (settings, .error ⟨field, text⟩)
          | .ok value =>
              let overridden := environment.releaseTextForm field (settings.put field value)
              let (settings, result) := overrideFields environment rest overridden
              (settings, result.map (field :: ·))

/-- The variables that are named like overrides, but override no setting, in
ascending order. -/
def strayVariables (environment : Environment) : List String :=
  let stray := environment.names.filter fun name =>
    name.startsWith VariableName.start && !(Field.all.map Field.variableName).contains name
  stray.mergeSort (fun a b => !(b < a))

/-- The log records of a successful overriding. -/
def overrideRecords (environment : Environment) (overridden : List Field) : List Log.Record :=
  let stray := environment.strayVariables
  let ignored : List Log.Record :=
    if stray.isEmpty then []
    else
      [{ level := Log.Level.debug
         logger := "plikd_config.environment"
         message := "environment variables not mapped to a field"
         extras := [("variables", Log.namesDatum stray)] }]
  let applied : List Log.Record :=
    if overridden.isEmpty then []
    else
      [{ level := Log.Level.info
         logger := "plikd_config.environment"
         message := "applied environment overrides"
         extras := [("variables", Log.namesDatum (overridden.map Field.variableName))] }]
  ignored ++ applied

end Environment

namespace Configuration

open Validation (Outcome)

/-- Override settings from an environment without validating.  The result is the
fields that were overridden. -/
def applyEnvironment (configuration : Configuration) (environment : Environment) :
    Outcome Coercion (List Field) :=
  let (settings, result) := environment.overrideFields Field.all configuration.settings
  { configuration := { configuration with settings }
    records :=
      match result with
      | .ok overridden => environment.overrideRecords overridden
      | .error _ => []
    result }

end Configuration

end ServerConfig
