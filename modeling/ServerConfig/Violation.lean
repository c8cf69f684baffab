import ServerConfig.ByteSize
import ServerConfig.Lifetime
import ServerConfig.Configuration

/-!
# Violations of the rules for settings

Each violation holds its cause.  It names the setting that is at fault, the
value at fault, and has a wording.
-/

namespace ServerConfig

/-- A rule for settings that is broken. -/
inductive Violation where
  /-- The text of the greatest file size is not read as a size. -/
  | fileSize (cause : ByteSize.Error)
  /-- The text of a lifetime is none. -/
  | lifetime (field : Field) (text : String) (cause : Lifetime.Error)
  /-- The default lifetime exceeds the greatest one. -/
  | lifetimeBounds (default greatest : Int)
  /-- An entry of the whitelist is malformed. -/
  | whitelist (cause : Whitelist.Malformed)
  /-- The path does not start with a solidus. -/
  | path (path : String)
  /-- The port is none. -/
  | listenPort (port : Int)
  /-- The URL of the server does not compose. -/
  | listenAddress (address : String) (cause : Url.Error)
  /-- The URL of downloads is malformed. -/
  | downloadDomain (domain : String) (cause : Url.Error)
  /-- Anonymous uploads are refused, but nobody can sign in. -/
  | anonymousUploads
deriving DecidableEq, Repr

namespace Violation

def field : Violation → Field
  | .fileSize _ => .maxFileSizeText
  | .lifetime field _ _ => field
  | .lifetimeBounds _ _ => .defaultLifetime
  | .whitelist _ => .uploadWhitelist
  | .path _ => .path
  | .listenPort _ => .listenPort
  | .listenAddress _ _ => .listenAddress
  | .downloadDomain _ _ => .downloadDomain
  | .anonymousUploads => .noAnonymousUploads

def value : Violation → Json
  | .fileSize cause => .string cause.text
  | .lifetime _ text _ => .string text
  | .lifetimeBounds default _ => .integer default
  | .whitelist cause => (cause.entry.map Json.string).getD .null
  | .path text => .string text
  | .listenPort port => .integer port
  | .listenAddress address _ => .string address
  | .downloadDomain domain _ => .string domain
  | .anonymousUploads => .bool true

/-- A number of seconds with its unit. -/
def secondsText (seconds : Int) : String :=
  String.ofList (Numeral.ofInt seconds) ++ "s"

def message : Violation → String
  | .fileSize cause => cause.message
  | .lifetime _ _ cause => cause.message
  | .lifetimeBounds default greatest =>
      "default TTL (" ++ secondsText default ++ ") must not exceed max TTL (" ++
        secondsText greatest ++ ")"
  | .whitelist cause => cause.message
  | .path text => "path " ++ Text.quoted text ++ " must start with '/'"
  | .listenPort port => "invalid server URL: " ++ (Url.ServerError.portOutOfRange port).message
  | .listenAddress _ cause => "invalid server URL: " ++ cause.message
  | .downloadDomain domain cause =>
      "invalid download domain " ++ Text.quoted domain ++ ": " ++ cause.message
  | .anonymousUploads => "NoAnonymousUploads requires Authentication to be enabled"

/-- Whether a violation is reported as one. -/
def isExpected (treatment : ByteSize.Treatment) : Violation → Bool
  | .fileSize cause => cause.isExpected treatment
  | _ => true

end Violation

end ServerConfig
