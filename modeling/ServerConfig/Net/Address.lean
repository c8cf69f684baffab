import ServerConfig.Numeral
import ServerConfig.Text.Quoted
import ServerConfig.Text.Split

/-!
# Internet addresses

An address of version 4 is four decimal octets; one of version 6 is eight
groups of four hexadecimal digits, of which one run of zero groups may be left
out and the last two may be written as an address of version 4, with an
optional zone after a percent sign.
-/

namespace ServerConfig.Net

/-- An address of either version of the Internet Protocol. -/
inductive Address where
  | v4 (bits : BitVec 32)
  | v6 (bits : BitVec 128) (zone : Option String)
deriving DecidableEq, Repr

/-- The versions of the Internet Protocol. -/
inductive Version where
  | v4
  | v6
deriving DecidableEq, Repr

def Version.number : Version → Nat
  | .v4 => 4
  | .v6 => 6

/-- The bits of an address. -/
def Version.width : Version → Nat
  | .v4 => 32
  | .v6 => 128

namespace Address

def version : Address → Version
  | .v4 _ => .v4
  | .v6 _ _ => .v6

/-- One of the four decimal numbers of a version 4 address, without leading
zeros. -/
def readOctet? (piece : List Char) : Option Nat :=
  if piece.isEmpty || 3 < piece.length || !piece.all Char.isDigit then none
  else if piece.head? = some '0' && 1 < piece.length then none
  else
    let value := Numeral.ofAscii piece
    if value ≤ 255 then some value else none

/-- A version 4 address in dotted form. -/
def readV4? (text : List Char) : Option (BitVec 32) :=
  match Text.pieces '.' text with
  | [a, b, c, d] => do
      let a ← readOctet? a
      let b ← readOctet? b
      let c ← readOctet? c
      let d ← readOctet? d
      return BitVec.ofNat 32 (((a * 256 + b) * 256 + c) * 256 + d)
  | _ => none

/-- A group of one to four hexadecimal digits. -/
def readGroup? (piece : List Char) : Option Nat :=
  if piece.isEmpty || 4 < piece.length then none
  else (piece.mapM Text.hexValue?).map Text.ofHex

/-- Groups, the last two of which may be written as a version 4 address. -/
def readGroups? : List (List Char) → Option (List Nat)
  | [] => some []
  | [last] =>
      if last.contains '.' then
        (readV4? last).map fun bits => [bits.toNat / 65536, bits.toNat % 65536]
      else (readGroup? last).map ([·])
  | piece :: rest => do
      let group ← readGroup? piece
      let groups ← readGroups? rest
      return group :: groups

/-- The pieces around the first empty piece that is neither the first nor the
last one; it stands for a run of zero groups. -/
def cutGap? : List (List Char) → Option (List (List Char) × List (List Char))
  | first :: [] :: next :: rest => some ([first], next :: rest)
  | first :: piece :: rest =>
      (cutGap? (piece :: rest)).map fun (before, after) => (first :: before, after)
  | _ => none

/-- The groups on one side of a gap, where a single empty piece stands for none
at all. -/
def besideGap (side : List (List Char)) : List (List Char) :=
  if side = [[]] then [] else side

/-- The number whose digits to base 65536 are the groups. -/
def ofGroups (groups : List Nat) : BitVec 128 :=
  BitVec.ofNat 128 (groups.foldl (fun value group => 65536 * value + group) 0)

/-- A version 6 address without its zone. -/
def readV6? (text : List Char) : Option (BitVec 128) :=
  let all := Text.pieces ':' text
  match cutGap? all with
  | some (before, after) => do
      let high ← (besideGap before).mapM readGroup?
      let low ← readGroups? (besideGap after)
      let known := high.length + low.length
      if 8 ≤ known then none
      return ofGroups (high ++ List.replicate (8 - known) 0 ++ low)
  | none => do
      let groups ← readGroups? all
      if groups.length ≠ 8 then none
      return ofGroups groups

/-- A version 6 address, with a zone that is neither empty nor holds a percent
sign. -/
def readZoned? (text : List Char) : Option Address :=
  match Text.cutFirst '%' text with
  | (address, none) => (readV6? address).map fun bits => .v6 bits none
  | (address, some zone) =>
      if zone.isEmpty || zone.contains '%' then none
      else (readV6? address).map fun bits => .v6 bits (some (String.ofList zone))

/-- The address that a text denotes. -/
def readChars? (text : List Char) : Option Address :=
  if text.contains '/' then none
  else
    match readV4? text with
    | some bits => some (.v4 bits)
    | none => readZoned? text

/-- The address that a text denotes. -/
def parse? (text : String) : Option Address :=
  readChars? text.toList

/-- The dotted form of a version 4 address. -/
def writeV4 (bits : BitVec 32) : List Char :=
  let n := bits.toNat
  Text.joinPieces '.'
    [Numeral.ofNat (n / 16777216), Numeral.ofNat (n / 65536 % 256),
     Numeral.ofNat (n / 256 % 256), Numeral.ofNat (n % 256)]

/-- The last `count` groups of a number, the most significant one first. -/
def groupsOf : Nat → Nat → List Nat
  | 0, _ => []
  | count + 1, value => groupsOf count (value / 65536) ++ [value % 65536]

/-- The length of the run of zeros at the start. -/
def zeroRun (groups : List Nat) : Nat :=
  (groups.takeWhile (· == 0)).length

/-- The longest run of zeros, the first of several: what stands before it and
its length. -/
def longestZeroRun : List Nat → Nat × Nat
  | [] => (0, 0)
  | group :: rest =>
      let here := zeroRun (group :: rest)
      let (start, length) := longestZeroRun rest
      if length ≤ here then (0, here) else (start + 1, length)

def writeGroup (group : Nat) : List Char :=
  Nat.toDigits 16 group

/-- Groups separated by colons. -/
def writeGroups (groups : List Nat) : List Char :=
  Text.joinPieces ':' (groups.map writeGroup)

/-- A version 6 address without its zone, its longest run of at least two zero
groups left out. -/
def writeV6 (bits : BitVec 128) : List Char :=
  let groups := groupsOf 8 bits.toNat
  let (start, length) := longestZeroRun groups
  if length < 2 then writeGroups groups
  else writeGroups (groups.take start) ++ ':' :: ':' :: writeGroups (groups.drop (start + length))

/-- The shortest text of an address. -/
def toChars : Address → List Char
  | .v4 bits => writeV4 bits
  | .v6 bits none => writeV6 bits
  | .v6 bits (some zone) => writeV6 bits ++ '%' :: zone.toList

def toText (address : Address) : String :=
  String.ofList address.toChars

/-- The address behind a version 6 address that maps one of version 4; other
addresses stand for themselves. -/
def unmapped : Address → Address
  | .v4 bits => .v4 bits
  | .v6 bits zone =>
      if bits >>> 32 = 0xFFFF#128 then .v4 (bits.setWidth 32) else .v6 bits zone

/-- The message for a text that is no address. -/
def unreadable (text : String) : String :=
  Text.quoted text ++ " does not appear to be an IPv4 or IPv6 address"

end Address

end ServerConfig.Net
