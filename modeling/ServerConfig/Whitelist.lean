import ServerConfig.Net.Network
import ServerConfig.Text.Blank

/-!
# The upload whitelist

Entries of the whitelist are addresses and networks.  A whitelist without
entries allows every client; any other one allows the clients whose address
belongs to one of its networks.
-/

namespace ServerConfig

/-- The networks from which uploads are allowed. -/
abbrev Whitelist := List Net.Network

namespace Whitelist

/-- An entry that is neither an address nor a network. -/
structure Malformed where
  entry : Option String
  cause : Net.Network.Unreadable
deriving DecidableEq, Repr

def Malformed.message (failure : Malformed) : String :=
  "invalid upload whitelist entry " ++ (failure.entry.map Text.quoted).getD "None" ++ ": " ++
    failure.cause.message

/-- Read an entry.  A missing entry is an empty text. -/
def readEntry (entry : Option String) : Except Malformed Net.Network :=
  (Net.Network.parse (Text.trim (entry.getD "").toList)).mapError fun cause => ⟨entry, cause⟩

/-- Read entries in order, up to the first malformed one. -/
def compile : List (Option String) → Except Malformed Whitelist
  | [] => .ok []
  | entry :: rest =>
      match readEntry entry with
      | .error failure => .error failure
      | .ok network =>
          match compile rest with
          | .error failure => .error failure
          | .ok networks => .ok (network :: networks)

/-- What is known of a client's address. -/
inductive Client where
  | text (text : String)
  | address (address : Net.Address)
  | absent
  | other
deriving DecidableEq, Repr

/-- The address of a client, if it has one.  An address of version 4 that is
mapped into version 6 is taken out of it. -/
def Client.address? : Client → Option Net.Address
  | .text shown => (Net.Address.readChars? (Text.trim shown.toList)).map Net.Address.unmapped
  | .address known => some known.unmapped
  | .absent => none
  | .other => none

def allows (whitelist : Whitelist) (client : Client) : Bool :=
  whitelist.isEmpty ||
    match client.address? with
    | none => false
    | some address => whitelist.any (·.contains address)

end Whitelist

end ServerConfig
