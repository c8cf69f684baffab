import ServerConfig.Configuration
import ServerConfig.ByteSize
import ServerConfig.Datum
import ServerConfig.Json.Writer
import ServerConfig.Lifetime

/-!
# Reports about a configuration

The report for operators, the settings that clients may see, and a one-line
description.  None of them holds a secret.  A report fails where a number in it
cannot be written.
-/

namespace ServerConfig

namespace Report

/-- Why a report cannot be written. -/
inductive Error where
  | numeral (cause : Numeral.Error)
  | size (cause : ByteSize.Overflow)
deriving DecidableEq, Repr

def Error.message : Error → String
  | .numeral cause => cause.message
  | .size cause => cause.message

/-- What stands in the place of a secret. -/
def redacted : String := "********"

def integer (n : Int) : Except Error String := (Numeral.write n).mapError .numeral

def size (bytes : Int) : Except Error String := (ByteSize.format bytes).mapError .size

def lifetime (seconds : Int) : Except Error String := (Lifetime.format seconds).mapError .numeral

def mapping (members : Json.Members) : Except Error String :=
  (Datum.ofJson (.object members)).shown.mapError .numeral

/-- Whether something is in use. -/
def enabled (value : Bool) : String := if value then "enabled" else "disabled"

def whitelistLines (entries : List String) : List String :=
  if entries.isEmpty then ["Upload whitelist : disabled"]
  else "Upload whitelist :" :: entries.map ("  - " ++ ·)

/-- The lines about the providers of authentication that are in use. -/
def providerLines (settings : Settings) : List String :=
  let google :=
    if settings.googleAuthentication then
      ["Google authentication : client id " ++ settings.googleClientId ++ ", secret " ++ redacted]
    else []
  let ovh :=
    if settings.ovhAuthentication then
      ["OVH authentication : key " ++ settings.ovhKey ++ ", secret " ++ redacted ++
        ", endpoint " ++ settings.ovhEndpoint]
    else []
  google ++ ovh

end Report

namespace Configuration

open Report

/-- The report for operators. -/
def dump (configuration : Configuration) : Except Report.Error String := do
  let settings := configuration.settings
  let port ← integer settings.listenPort
  let maxFileSize ← size settings.maxFileSize
  let maxFiles ← integer settings.maxFilesPerUpload
  let defaultLifetime ← lifetime settings.defaultLifetime
  let maxLifetime ← lifetime settings.maxLifetime
  let metadataConfig ← mapping settings.metadataBackendConfig
  let dataConfig ← mapping settings.dataBackendConfig
  let lines :=
    ["Listening on " ++ settings.listenAddress ++ ":" ++ port,
     "Server URL : " ++ configuration.serverUrl.toText,
     "Download URL : " ++ configuration.downloadUrl.toText,
     "TLS : " ++ enabled settings.sslEnabled,
     "Maximum file size : " ++ maxFileSize,
     "Maximum files per upload : " ++ maxFiles,
     "Default TTL : " ++ defaultLifetime,
     "Maximum TTL : " ++ maxLifetime] ++
    whitelistLines settings.uploadWhitelist ++
    ["Authentication : " ++ enabled settings.authentication] ++
    providerLines settings ++
    ["Metadata backend : " ++ settings.metadataBackend ++ " " ++ metadataConfig,
     "Data backend : " ++ settings.dataBackend ++ " " ++ dataConfig,
     "Auto clean : " ++ enabled configuration.autoClean]
  return "\n".intercalate lines

/-- The settings that clients may see. -/
def publicView (configuration : Configuration) : Json :=
  let settings := configuration.settings
  .object
    [("maxFileSize", .integer settings.maxFileSize),
     ("maxFilePerUpload", .integer settings.maxFilesPerUpload),
     ("defaultTTL", .integer settings.defaultLifetime),
     ("maxTTL", .integer settings.maxLifetime),
     ("oneShot", .bool settings.oneShot),
     ("removable", .bool settings.removable),
     ("stream", .bool settings.stream),
     ("protectedByPassword", .bool settings.protectedByPassword),
     ("authentication", .bool settings.authentication),
     ("noAnonymousUploads", .bool settings.noAnonymousUploads),
     ("googleAuthentication", .bool settings.googleAuthentication),
     ("ovhAuthentication", .bool settings.ovhAuthentication),
     ("downloadDomain", .string settings.downloadDomain),
     ("abuseContact", .string settings.abuseContact)]

/-- A setting with its value, as a description shows it. -/
def describeField (settings : Settings) (field : Field) : Except Report.Error String := do
  let value ← (Datum.ofJson (settings.toJson field)).shown.mapError .numeral
  return field.name ++ "=" ++ value

/-- A one-line description of all settings but the secrets. -/
def describe (configuration : Configuration) : Except Report.Error String := do
  let shown := Field.all.filter (!·.isSecret)
  let values ← shown.mapM (describeField configuration.settings)
  return "Configuration(" ++ ", ".intercalate values ++ ")"

/-- The indented text of the settings that clients may see. -/
def publicText (configuration : Configuration) : Except Report.Error String :=
  configuration.publicView.writeIndented.mapError .numeral

end Configuration

end ServerConfig
