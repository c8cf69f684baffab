import ServerConfig.Url

/-!
# The URL of the server

The address that a server listens on becomes the host of its URL: wildcard
addresses become the loopback address, and version 6 addresses are written in
square brackets.
-/

namespace ServerConfig.Url

/-- The addresses that stand for all interfaces. -/
def wildcards : List (List Char) :=
  ["".toList, "0.0.0.0".toList, "::".toList]

/-- The address by which a host reaches itself. -/
def loopback : List Char := "127.0.0.1".toList

/-- The host of the URL of a server that listens on an address. -/
def hostOfAddress (address : String) : List Char :=
  let host := Text.trim address.toList
  if wildcards.contains host then loopback
  else
    match Net.Address.readChars? host with
    | some (.v6 bits zone) => '[' :: (Net.Address.v6 bits zone).toChars ++ [']']
    | _ => host

/-- Why the URL of a server does not compose. -/
inductive ServerError where
  | portOutOfRange (port : Int)
  | malformed (cause : Error)
deriving DecidableEq, Repr

/-- The wording of a failure.  A port that is too long to be written leaves only
the reason for that. -/
def ServerError.message : ServerError → String
  | .portOutOfRange port =>
      match Numeral.write port with
      | .ok digits => "port " ++ digits ++ " out of range"
      | .error cause => cause.message
  | .malformed cause => cause.message

def isPort (port : Int) : Bool := 0 ≤ port && port ≤ maxPort

/-- The URL of a server that listens on an address and a port. -/
def ofServer (tls : Bool) (address : String) (port : Int) (path : String) :
    Except ServerError Url :=
  if !isPort port then .error (.portOutOfRange port)
  else
    let url : Url := {
      scheme := if tls then "https" else "http"
      authority := String.ofList (hostOfAddress address ++ ':' :: Numeral.ofInt port)
      path := Text.dropTrailingSlashes path }
    (parseAbsolute url.toText).mapError .malformed

end ServerConfig.Url
