import ServerConfig.Environment

/-!
# Assembling a configuration

A configuration is assembled from a source and the environment.  Everything
that can go wrong on the way is an `AssemblyError`.
-/

namespace ServerConfig

/-- Why a source cannot be read. -/
inductive Unavailable where
  | missing
  | isDirectory
  | notADirectory
  | nameTooLong
  /-- Another reason, in the words of the system. -/
  | other (reason : String)
deriving DecidableEq, Repr

def Unavailable.reason : Unavailable → String
  | .missing => "No such file or directory"
  | .isDirectory => "Is a directory"
  | .notADirectory => "Not a directory"
  | .nameTooLong => "File name too long"
  | .other reason => reason

/-- Why the contents of a source are no configuration. -/
inductive Undecodable where
  /-- The bytes are no text. -/
  | encoding
  /-- The text breaks the grammar. -/
  | grammar
  /-- Values do not have the types of their settings. -/
  | values (faults : List Fault)
deriving DecidableEq, Repr

def Undecodable.reason : Undecodable → String
  | .encoding => "invalid encoding"
  | .grammar => "invalid document"
  | .values faults => toString faults.length ++ " invalid values"

/-- Why a configuration cannot be assembled. -/
inductive AssemblyError where
  | unavailable (source : String) (cause : Unavailable)
  | undecodable (source : String) (cause : Undecodable)
  | coercion (cause : Coercion)
  | violation (cause : Violation)
  /-- An integer on the way is too long to be read or written. -/
  | numeral (cause : Numeral.Error)
  /-- The name of the source has a null character in it. -/
  | nullInName
deriving DecidableEq, Repr

namespace AssemblyError

/-- What a message about an undecodable source says before the reason. -/
def undecodableStart (source : String) : String :=
  "unable to decode configuration source " ++ Text.quoted source ++ ": "

def message : AssemblyError → String
  | .unavailable source cause =>
      "configuration source " ++ Text.quoted source ++ " unavailable: " ++ cause.reason
  | .undecodable source cause => undecodableStart source ++ cause.reason
  | .coercion cause => cause.message
  | .violation cause => cause.message
  | .numeral cause => cause.message
  | .nullInName => "embedded null byte"

/-- Whether an error is about the configuration, and not a limit of the
surroundings. -/
def isExpected (treatment : ByteSize.Treatment) : AssemblyError → Bool
  | .violation cause => cause.isExpected treatment
  | .numeral _ => false
  | .nullInName => false
  | _ => true

def ofFailure : Validation.Failure → AssemblyError
  | .violation cause => .violation cause
  | .numeral cause => .numeral cause

end AssemblyError

namespace Configuration

open Validation (Outcome)

/-- Override settings from an environment, then validate. -/
def override (configuration : Configuration) (environment : Environment) :
    Outcome AssemblyError Unit :=
  let applied := configuration.applyEnvironment environment
  match applied.result with
  | .error cause => { applied with result := .error (.coercion cause) }
  | .ok _ =>
      let validated := Validation.validate applied.configuration
      { configuration := validated.configuration
        records := applied.records ++ validated.records
        result := validated.result.mapError .ofFailure }

/-- Read a configuration from entries and validate it.  `source` is what the
entries were read from. -/
def ofEntries (source : String) (entries : Entries Datum) :
    List Log.Record × Except AssemblyError Configuration :=
  let known := Field.all.flatMap fun field => [field.key, field.name]
  let unknown := (entries.names.filter (!known.contains ·)).mergeSort (fun a b => !(b < a))
  let ignored : List Log.Record :=
    if unknown.isEmpty then []
    else
      [{ level := Log.Level.warning
         logger := "plikd_config.loader"
         message := "ignoring unknown configuration keys"
         extras := [("keys", Log.namesDatum unknown)] }]
  match Decoding.settings entries with
  | .error faults => (ignored, .error (.undecodable source (.values faults)))
  | .ok settings =>
      let validated := Validation.validate (ofSettings settings)
      match validated.result with
      | .error failure => (ignored ++ validated.records, .error (.ofFailure failure))
      | .ok _ =>
          let loaded : Log.Record := {
            level := Log.Level.info
            logger := "plikd_config.loader"
            message := "configuration loaded"
            extras := [("source", .string source)] }
          (ignored ++ validated.records ++ [loaded], .ok validated.configuration)

end Configuration

end ServerConfig
