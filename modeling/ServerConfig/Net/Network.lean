import ServerConfig.Net.Address

/-!
# Networks

A network is the block of addresses that share their leading bits with a base
address, all further bits of which are zero.  Its text is an address, a solidus
and the number of shared bits, for which version 4 also accepts the mask or its
complement in dotted form.
-/

namespace ServerConfig.Net

/-- The mask that keeps the leading `length` bits. -/
def leadingMask (width length : Nat) : BitVec width :=
  BitVec.allOnes width <<< (width - length)

/-- A block of addresses that share their leading `length` bits.  The zone of a
version 6 base belongs to its text only. -/
inductive Network where
  | v4 (base : BitVec 32) (length : Nat)
  | v6 (base : BitVec 128) (zone : Option String) (length : Nat)
deriving DecidableEq, Repr

namespace Network

def version : Network → Version
  | .v4 _ _ => .v4
  | .v6 _ _ _ => .v6

/-- The number of leading bits that a network's addresses share. -/
def length : Network → Nat
  | .v4 _ length => length
  | .v6 _ _ length => length

/-- The network of a single address. -/
def single : Address → Network
  | .v4 bits => .v4 bits 32
  | .v6 bits zone => .v6 bits zone 128

/-- The network of the addresses that share the leading bits of a given one.
The zone is kept only where no bit of the address is lost. -/
def around : Address → Nat → Network
  | .v4 bits, length => .v4 (bits &&& leadingMask 32 length) length
  | .v6 bits zone, length =>
      let base := bits &&& leadingMask 128 length
      .v6 base (if base = bits then zone else none) length

def contains : Network → Address → Bool
  | .v4 base length, .v4 bits => bits &&& leadingMask 32 length == base
  | .v6 base _ length, .v6 bits _ => bits &&& leadingMask 128 length == base
  | _, _ => false

/-- A number of leading bits in ASCII digits. -/
def readLength? (width : Nat) (text : List Char) : Option Nat :=
  if text.isEmpty || !text.all Char.isDigit || Numeral.digitLimit < text.length then none
  else
    let value := Numeral.ofAscii text
    if value ≤ width then some value else none

/-- The number of leading ones of a mask in dotted form, or of the complement of
such a mask. -/
def readDottedMask? (text : List Char) : Option Nat := do
  let bits ← Address.readV4? text
  let lengths := List.range 33
  (lengths.find? fun length => leadingMask 32 length == bits) <|>
    (lengths.find? fun length => leadingMask 32 length == ~~~bits)

/-- The network that an address and the text of a length or mask denote. -/
def ofParts? (address mask : List Char) : Option Network :=
  match (do
    let bits ← Address.readV4? address
    let length ← readLength? 32 mask <|> readDottedMask? mask
    return around (.v4 bits) length : Option Network) with
  | some network => some network
  | none => do
      let base ← Address.readZoned? address
      let length ← readLength? 128 mask
      return around base length

/-- The network that a text with a solidus denotes. -/
def readBlock? (text : List Char) : Option Network :=
  match Text.pieces '/' text with
  | [address, mask] => ofParts? address mask
  | _ => none

/-- What a text fails to be. -/
inductive Expected where
  | address
  | network
deriving DecidableEq, Repr

/-- A text that denotes neither an address nor a network. -/
structure Unreadable where
  text : String
  expected : Expected
deriving DecidableEq, Repr

def Unreadable.message (failure : Unreadable) : String :=
  match failure.expected with
  | .address => Address.unreadable failure.text
  | .network => Text.quoted failure.text ++ " does not appear to be an IPv4 or IPv6 network"

/-- Read a network, or a single address as the network of that address. -/
def parse (text : List Char) : Except Unreadable Network :=
  if text.contains '/' then
    match readBlock? text with
    | some network => .ok network
    | none => .error ⟨String.ofList text, .network⟩
  else
    match Address.readChars? text with
    | some address => .ok (single address)
    | none => .error ⟨String.ofList text, .address⟩

def toText : Network → String
  | .v4 base length => (Address.v4 base).toText ++ "/" ++ toString length
  | .v6 base zone length => (Address.v6 base zone).toText ++ "/" ++ toString length

end Network

end ServerConfig.Net
