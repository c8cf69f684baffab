import ServerConfig.Net.Address
import ServerConfig.Text.Blank
import ServerConfig.Text.Case

/-!
# URLs

A URL is cut into scheme, authority, path, query and fragment.  The host and
the port are read off the authority.  `Url.parseAbsolute` accepts the URLs that
have a scheme, a host and a readable port.
-/

namespace ServerConfig

/-- The parts of a URL.  A part that is missing is empty. -/
structure Url where
  scheme : String := ""
  authority : String := ""
  path : String := ""
  query : String := ""
  fragment : String := ""
deriving DecidableEq, Repr, Inhabited

namespace Url

/-- Why a text is no absolute URL. -/
inductive Error where
  /-- Square brackets do not enclose the host. -/
  | brackets
  /-- The address in square brackets names a future version it does not have
  the form of. -/
  | futureAddress
  /-- There is no address in the square brackets. -/
  | noAddress (host : String)
  /-- The address in square brackets is of version 4. -/
  | version4InBrackets
  /-- A character of the authority would become a delimiter when normalised. -/
  | disguisedDelimiter (authority : String)
  | missingScheme
  | missingHost
  | portNotNumeric (port : String)
  | portNumeral (cause : Numeral.Error)
  | portOutOfRange
deriving DecidableEq, Repr

def Error.message : Error → String
  | .brackets => "Invalid IPv6 URL"
  | .futureAddress => "IPvFuture address is invalid"
  | .noAddress host => Net.Address.unreadable host
  | .version4InBrackets => "An IPv4 address cannot be in brackets"
  | .disguisedDelimiter authority =>
      "netloc '" ++ authority ++ "' contains invalid characters under NFKC normalization"
  | .missingScheme => "missing protocol scheme"
  | .missingHost => "missing host"
  | .portNotNumeric port =>
      "Port could not be cast to integer value as " ++ Text.quoted port
  | .portNumeral cause => cause.message
  | .portOutOfRange => "Port out of range 0-65535"

/-- The URL all of whose parts are missing. -/
def empty : Url := {}

def isSchemeChar (c : Char) : Bool :=
  c.isAlphanum || c = '+' || c = '-' || c = '.'

/-- A character that ends the authority. -/
def endsAuthority (c : Char) : Bool :=
  c = '/' || c = '?' || c = '#'

/-- The lower-case scheme before the first colon, and the rest. -/
def cutScheme (text : List Char) : List Char × List Char :=
  match Text.cutFirst ':' text with
  | (first :: more, some rest) =>
      if first.isAlpha && (first :: more).all isSchemeChar then
        ((first :: more).map Char.toLower, rest)
      else ([], text)
  | _ => ([], text)

/-- The authority that two solidi announce, and the rest. -/
def cutAuthority : List Char → Option (List Char) × List Char
  | '/' :: '/' :: rest =>
      (some (rest.takeWhile (!endsAuthority ·)), rest.dropWhile (!endsAuthority ·))
  | text => (none, text)

/-- The form `v` digits `.` more of an address of a future version. -/
def isFutureAddress : List Char → Bool
  | 'v' :: rest =>
      let digits := rest.takeWhile fun c => (Text.hexValue? c).isSome
      match rest.dropWhile fun c => (Text.hexValue? c).isSome with
      | '.' :: _ :: _ => !digits.isEmpty
      | _ => false
  | _ => false

/-- Check the address between square brackets. -/
def checkBracketed (host : List Char) : Except Error Unit :=
  if host.head? = some 'v' then
    if isFutureAddress host then .ok () else .error .futureAddress
  else
    match Net.Address.readChars? host with
    | none => .error (.noAddress (String.ofList host))
    | some (.v4 _) => .error .version4InBrackets
    | some (.v6 _ _) => .ok ()

/-- Check that square brackets, if there are any, enclose the host. -/
def checkBrackets (authority : List Char) : Except Error Unit :=
  if authority.contains '[' != authority.contains ']' then .error .brackets
  else if !authority.contains '[' then .ok ()
  else
    let place := Text.afterLast '@' authority
    match Text.cutFirst '[' place with
    | (before, some bracketed) =>
        if !before.isEmpty then .error .brackets
        else
          let (host, after) := Text.cutFirst ']' bracketed
          match after with
          | some (c :: _) => if c = ':' then checkBracketed host else .error .brackets
          | _ => checkBracketed host
    | (before, none) => checkBracketed (Text.cutFirst ':' before).1

/-- The characters beyond ASCII whose compatibility form has a delimiter of an
authority in it. -/
def disguisedDelimiters : List Nat :=
  [0x2047, 0x2048, 0x2049, 0x2100, 0x2101, 0x2105, 0x2106, 0x2A74, 0xFE13, 0xFE16, 0xFE55,
   0xFE56, 0xFE5F, 0xFE6B, 0xFF03, 0xFF0F, 0xFF1A, 0xFF1F, 0xFF20]

/-- Check that no character of the authority is a delimiter in disguise. -/
def checkDelimiters (authority : List Char) : Except Error Unit :=
  if authority.any fun c => disguisedDelimiters.contains c.toNat then
    .error (.disguisedDelimiter (String.ofList authority))
  else .ok ()

/-- Characters that are dropped from the start of a URL. -/
def isLeadingNoise (c : Char) : Bool := c.toNat ≤ 0x20

/-- Characters that are dropped from anywhere in a URL. -/
def isLineNoise (c : Char) : Bool := c = '\t' || c = '\r' || c = '\n'

/-- Remove the characters that are no part of a URL. -/
def clean (text : List Char) : List Char :=
  (text.dropWhile isLeadingNoise).filter (!isLineNoise ·)

/-- Cut a text into the parts of a URL. -/
def split (text : List Char) : Except Error Url := do
  let (scheme, rest) := cutScheme (clean text)
  let (authority?, rest) := cutAuthority rest
  let authority := authority?.getD []
  checkBrackets authority
  let (rest, fragment) := Text.cutFirst '#' rest
  let (path, query) := Text.cutFirst '?' rest
  checkDelimiters authority
  return {
    scheme := String.ofList scheme
    authority := String.ofList authority
    path := String.ofList path
    query := String.ofList (query.getD [])
    fragment := String.ofList (fragment.getD []) }

/-- The text of a URL. -/
def toChars (url : Url) : List Char :=
  let path := url.path.toList
  let rooted := if path.isEmpty || path.head? = some '/' then path else '/' :: path
  let hierarchy :=
    if url.authority.toList.isEmpty then path
    else '/' :: '/' :: url.authority.toList ++ rooted
  let located :=
    if url.scheme.toList.isEmpty then hierarchy else url.scheme.toList ++ ':' :: hierarchy
  let queried :=
    if url.query.toList.isEmpty then located else located ++ '?' :: url.query.toList
  if url.fragment.toList.isEmpty then queried else queried ++ '#' :: url.fragment.toList

def toText (url : Url) : String :=
  String.ofList url.toChars

/-- The host and the port in the part of the authority after the user. -/
def hostAndPort (authority : List Char) : List Char × List Char :=
  let place := Text.afterLast '@' authority
  match Text.cutFirst '[' place with
  | (_, some bracketed) =>
      let (host, after) := Text.cutFirst ']' bracketed
      (host, ((Text.cutFirst ':' (after.getD [])).2).getD [])
  | (before, none) =>
      let (host, port) := Text.cutFirst ':' before
      (host, port.getD [])

/-- A host in lower case, except for the zone after a percent sign. -/
def lowerHost (host : List Char) : List Char :=
  match Text.cutFirst '%' host with
  | (name, none) => Text.lower name
  | (name, some zone) => Text.lower name ++ '%' :: zone

/-- The host of a URL, if it is not empty. -/
def host? (url : Url) : Option String :=
  let host := (hostAndPort url.authority.toList).1
  if host.isEmpty then none else some (String.ofList (lowerHost host))

def maxPort : Nat := 65535

/-- The number that the text of a port denotes; an empty text denotes none. -/
def readPort (port : List Char) : Except Error (Option Nat) :=
  if port.isEmpty then .ok none
  else if !port.all Char.isDigit then .error (.portNotNumeric (String.ofList port))
  else
    match Numeral.readDigits (Numeral.digitValues port) with
    | .error cause => .error (.portNumeral cause)
    | .ok value => if value ≤ maxPort then .ok (some value) else .error .portOutOfRange

def port (url : Url) : Except Error (Option Nat) :=
  readPort (hostAndPort url.authority.toList).2

/-- The port of a URL, if it has one that can be read. -/
def port? (url : Url) : Option Nat :=
  match url.port with
  | .ok port => port
  | .error _ => none

/-- Read a URL that has a scheme, a host and a readable port. -/
def parseAbsolute (text : String) : Except Error Url := do
  let url ← split (Text.trim text.toList)
  if url.scheme.isEmpty then throw .missingScheme
  if url.host?.isNone then throw .missingHost
  let _ ← url.port
  return url

end Url

end ServerConfig
