import ServerConfig.Settings
import ServerConfig.Url.Server
import ServerConfig.Whitelist

/-!
# Configurations

A configuration is the settings together with what the last successful
validation derived from them.  Settings may be changed at any time; what is
derived changes only by validating again.
-/

namespace ServerConfig

/-- What validation derives from settings. -/
structure Derived where
  /-- The networks of the whitelist. -/
  whitelist : Whitelist := []
  /-- The URL of the server. -/
  serverUrl : Option Url := none
  /-- The URL that downloads are served from, if the settings name one. -/
  downloadUrl : Option Url := none
deriving DecidableEq, Repr, Inhabited

structure Configuration where
  settings : Settings := {}
  derived : Derived := {}
  /-- Whether expired uploads are removed without being asked to. -/
  autoClean : Bool := true
deriving Inhabited

namespace Settings

/-- The URL that the settings give the server. -/
def serverUrl (settings : Settings) : Except Url.ServerError Url :=
  Url.ofServer settings.sslEnabled settings.listenAddress settings.listenPort settings.path

end Settings

namespace Configuration

/-- The configuration with default settings, not validated. -/
def initial : Configuration := {}

/-- A configuration of given settings, not validated. -/
def ofSettings (settings : Settings) : Configuration := { settings }

/-- Replace the value of a setting without validating. -/
def put (configuration : Configuration) (field : Field) (value : field.kind.Carrier) :
    Configuration :=
  { configuration with settings := configuration.settings.put field value }

def allows (configuration : Configuration) (client : Whitelist.Client) : Bool :=
  configuration.derived.whitelist.allows client

/-- The URL of the server: the one that the settings give, or else the last
validated one. -/
def serverUrl (configuration : Configuration) : Url :=
  match configuration.settings.serverUrl with
  | .ok url => url
  | .error _ => configuration.derived.serverUrl.getD Url.empty

/-- The URL that downloads are served from: the last validated one, or else the
URL of the server. -/
def downloadUrl (configuration : Configuration) : Url :=
  match configuration.derived.downloadUrl with
  | some url => url
  | none => configuration.serverUrl

/-- Choose whether expired uploads are removed without being asked to. -/
def setAutoClean (configuration : Configuration) (autoClean : Bool) : Configuration :=
  { configuration with autoClean }

end Configuration

end ServerConfig
