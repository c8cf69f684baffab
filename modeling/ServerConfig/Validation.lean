import ServerConfig.Log.Record
import ServerConfig.Text.Case
import ServerConfig.Violation

/-!
# Validation

A configuration is validated by rules that are applied in order to a draft of
it.  Each rule may settle some settings and what is derived from them, and the
first rule that is broken ends the validation.  The settings that the draft has
by then stay; what is derived takes effect only when no rule is broken.
-/

namespace ServerConfig.Validation

inductive Failure where
  | violation (cause : Violation)
  /-- The lifetimes at fault are too long to be reported. -/
  | numeral (cause : Numeral.Error)
deriving DecidableEq, Repr

def Failure.message : Failure → String
  | .violation cause => cause.message
  | .numeral cause => cause.message

/-- Whether a failure is reported as a violation of a rule. -/
def Failure.isExpected (treatment : ByteSize.Treatment) : Failure → Bool
  | .violation cause => cause.isExpected treatment
  | .numeral _ => false

/-- A configuration under validation, with the log records so far. -/
structure Draft where
  settings : Settings
  derived : Derived := {}
  records : List Log.Record := []

/-- A rule goes on with a draft, or stops with the draft so far and a failure. -/
abbrev Rule := Draft → Draft × Option Failure

def Draft.modify (draft : Draft) (change : Settings → Settings) : Draft :=
  { draft with settings := change draft.settings }

def Draft.stop (draft : Draft) (cause : Violation) : Draft × Option Failure :=
  (draft, some (.violation cause))

def Draft.pass (draft : Draft) : Draft × Option Failure :=
  (draft, none)

/-- The text of the greatest file size, unless empty, decides that size. -/
def fileSizeRule : Rule := fun draft =>
  if draft.settings.maxFileSizeText.isEmpty then draft.pass
  else
    match ByteSize.parse draft.settings.maxFileSizeText with
    | .error cause => draft.stop (.fileSize cause)
    | .ok bytes => (draft.modify ({ · with maxFileSize := bytes })).pass

/-- The text of the default lifetime, unless empty, decides that lifetime. -/
def defaultLifetimeRule : Rule := fun draft =>
  let text := draft.settings.defaultLifetimeText
  if text.isEmpty then draft.pass
  else
    match Lifetime.parse text with
    | .error cause => draft.stop (.lifetime .defaultLifetimeText text cause)
    | .ok seconds => (draft.modify ({ · with defaultLifetime := seconds })).pass

/-- The text of the greatest lifetime, unless empty, decides that lifetime. -/
def maxLifetimeRule : Rule := fun draft =>
  let text := draft.settings.maxLifetimeText
  if text.isEmpty then draft.pass
  else
    match Lifetime.parse text with
    | .error cause => draft.stop (.lifetime .maxLifetimeText text cause)
    | .ok seconds => (draft.modify ({ · with maxLifetime := seconds })).pass

/-- The default lifetime is at most the greatest lifetime, if that is bounded.
Lifetimes at fault are reported only if both can be written. -/
def lifetimeBoundsRule : Rule := fun draft =>
  let default := draft.settings.defaultLifetime
  let greatest := draft.settings.maxLifetime
  if 0 ≤ greatest && greatest < default then
    match Numeral.write default, Numeral.write greatest with
    | .ok _, .ok _ => draft.stop (.lifetimeBounds default greatest)
    | .error cause, _ => (draft, some (.numeral cause))
    | .ok _, .error cause => (draft, some (.numeral cause))
  else draft.pass

/-- The record of a compiled whitelist; an empty one has none. -/
def whitelistRecords (whitelist : Whitelist) : List Log.Record :=
  if whitelist.isEmpty then []
  else
    [{ level := Log.Level.debug
       logger := "plikd_config.whitelist"
       message := "compiled upload whitelist"
       extras := [("networks", Log.namesDatum (whitelist.map Net.Network.toText))] }]

/-- Every entry of the whitelist is an address or a network. -/
def whitelistRule : Rule := fun draft =>
  match Whitelist.compile (draft.settings.uploadWhitelist.map some) with
  | .error cause => draft.stop (.whitelist cause)
  | .ok whitelist =>
      { draft with
        derived := { draft.derived with whitelist }
        records := draft.records ++ whitelistRecords whitelist }.pass

/-- The path has no trailing solidus, and starts with one unless it is empty. -/
def pathRule : Rule := fun draft =>
  let path := Text.dropTrailingSlashes draft.settings.path
  let draft := draft.modify ({ · with path })
  if path.isEmpty || path.toList.head? = some '/' then draft.pass
  else draft.stop (.path path)

/-- The URL of the server composes. -/
def serverRule : Rule := fun draft =>
  match draft.settings.serverUrl with
  | .ok url => { draft with derived := { draft.derived with serverUrl := some url } }.pass
  | .error (.portOutOfRange port) => draft.stop (.listenPort port)
  | .error (.malformed cause) =>
      draft.stop (.listenAddress draft.settings.listenAddress cause)

/-- The URL of downloads has no trailing solidus and is absolute, unless it is
empty from the start. -/
def downloadRule : Rule := fun draft =>
  if draft.settings.downloadDomain.isEmpty then
    { draft with derived := { draft.derived with downloadUrl := none } }.pass
  else
    let domain := Text.dropTrailingSlashes draft.settings.downloadDomain
    let draft := draft.modify ({ · with downloadDomain := domain })
    match Url.parseAbsolute domain with
    | .error cause => draft.stop (.downloadDomain domain cause)
    | .ok url =>
        { draft with derived := { draft.derived with downloadUrl := some url } }.pass

/-- A provider of authentication is in use exactly if both its credentials are
given, and refusing anonymous uploads requires authentication. -/
def authenticationRule : Rule := fun draft =>
  let draft := draft.modify fun settings =>
    { settings with
      googleAuthentication := !settings.googleClientId.isEmpty && !settings.googleSecret.isEmpty
      ovhAuthentication := !settings.ovhKey.isEmpty && !settings.ovhSecret.isEmpty }
  if draft.settings.noAnonymousUploads && !draft.settings.authentication then
    draft.stop .anonymousUploads
  else draft.pass

/-- Logging debugging messages is debugging. -/
def debugRule : Rule := fun draft =>
  if Text.upperName draft.settings.logLevel = "DEBUG" then
    (draft.modify ({ · with debug := true })).pass
  else draft.pass

def rules : List Rule :=
  [fileSizeRule, defaultLifetimeRule, maxLifetimeRule, lifetimeBoundsRule, whitelistRule,
   pathRule, serverRule, downloadRule, authenticationRule, debugRule]

/-- Apply rules in order up to the first that is broken. -/
def applyRules : List Rule → Rule
  | [], draft => draft.pass
  | rule :: rest, draft =>
      match rule draft with
      | (draft, some failure) => (draft, some failure)
      | (draft, none) => applyRules rest draft

/-- The record of a successful validation. -/
def validatedRecord (derived : Derived) : Log.Record where
  level := Log.Level.debug
  logger := "plikd_config.models"
  message := "configuration initialized"
  extras :=
    [("server_url", .string (derived.serverUrl.getD Url.empty).toText),
     ("whitelist_size", .integer derived.whitelist.length)]

/-- The end of a step that may fail: the configuration it leaves behind, the log
records on the way, and its result. -/
structure Outcome (ε α : Type) where
  configuration : Configuration
  records : List Log.Record
  result : Except ε α

/-- Validate a configuration.  After a failure it keeps what it derived before,
while settings that were settled on the way stay so. -/
def validate (configuration : Configuration) : Outcome Failure Unit :=
  match applyRules rules { settings := configuration.settings } with
  | (draft, some failure) =>
      { configuration := { configuration with settings := draft.settings }
        records := draft.records
        result := .error failure }
  | (draft, none) =>
      { configuration :=
          { configuration with settings := draft.settings, derived := draft.derived }
        records := draft.records ++ [validatedRecord draft.derived]
        result := .ok () }

end ServerConfig.Validation
