import ServerConfig.Json
import ServerConfig.Binary64.Decimal

/-!
# Writing JSON text

Items are separated by a comma and a space, names from values by a colon and a
space.  The one-line form leaves characters beyond ASCII as they are; the
indented form escapes them.  A value with an integer beyond the digit limit has
no text.
-/

namespace ServerConfig.Json

/-- The escape of one code unit. -/
def unitEscape (unit : Nat) : List Char :=
  '\\' :: 'u' :: Text.hexText 4 unit

/-- The escape of a character by one or two code units. -/
def unicodeEscape (c : Char) : List Char :=
  if c.toNat < 0x10000 then unitEscape c.toNat
  else
    let offset := c.toNat - 0x10000
    unitEscape (0xD800 + offset / 0x400) ++ unitEscape (0xDC00 + offset % 0x400)

/-- A character inside a string. -/
def writeChar (asciiOnly : Bool) (c : Char) : List Char :=
  if c = '"' then ['\\', '"']
  else if c = '\\' then ['\\', '\\']
  else if c = '\n' then ['\\', 'n']
  else if c = '\r' then ['\\', 'r']
  else if c = '\t' then ['\\', 't']
  else if c = '\x08' then ['\\', 'b']
  else if c = '\x0c' then ['\\', 'f']
  else if c.toNat < 0x20 then unitEscape c.toNat
  else if asciiOnly && 0x7F ≤ c.toNat then unicodeEscape c
  else [c]

/-- A string between quotation marks. -/
def writeString (asciiOnly : Bool) (text : String) : List Char :=
  '"' :: text.toList.flatMap (writeChar asciiOnly) ++ ['"']

def writeFloat : Binary64 → List Char
  | .nan => "NaN".toList
  | .infinite negative => (if negative then "-Infinity" else "Infinity").toList
  | number => number.toText

/-- Texts joined by a separator. -/
def joined (separator : List Char) : List (List Char) → List Char
  | [] => []
  | [text] => text
  | text :: later => text ++ separator ++ joined separator later

mutual

/-- The one-line text of a value. -/
def render : Json → List Char
  | .null => "null".toList
  | .bool value => (if value then "true" else "false").toList
  | .integer value => Numeral.ofInt value
  | .float value => writeFloat value
  | .string value => writeString false value
  | .array items => '[' :: joined [',', ' '] (renderItems items) ++ [']']
  | .object members => '\x7b' :: joined [',', ' '] (renderMembers members) ++ ['\x7d']

def renderItems : List Json → List (List Char)
  | [] => []
  | item :: rest => render item :: renderItems rest

def renderMembers : List (String × Json) → List (List Char)
  | [] => []
  | (name, value) :: rest =>
      (writeString false name ++ ':' :: ' ' :: render value) :: renderMembers rest

end

mutual

/-- Whether no integer in a value exceeds the digit limit. -/
def isWritable : Json → Bool
  | .integer value => (Numeral.ofNat value.natAbs).length ≤ Numeral.digitLimit
  | .array items => areWritable items
  | .object members => membersWritable members
  | _ => true

/-- Whether the items of an array can be written. -/
def areWritable : List Json → Bool
  | [] => true
  | item :: rest => isWritable item && areWritable rest

/-- Whether the members of an object can be written. -/
def membersWritable : List (String × Json) → Bool
  | [] => true
  | (_, value) :: rest => isWritable value && membersWritable rest

end

/-- The one-line text of a value, if it has one. -/
def write (value : Json) : Except Numeral.Error String :=
  if value.isWritable then .ok (String.ofList value.render) else .error .unwritable

/-- A line break and the indentation of a nesting level. -/
def newLine (level : Nat) : List Char :=
  '\n' :: List.replicate (2 * level) ' '

/-- Texts on lines of their own between two brackets. -/
def indented (level : Nat) (opening closing : Char) : List (List Char) → List Char
  | [] => [opening, closing]
  | texts =>
      opening :: newLine (level + 1) ++ joined (',' :: newLine (level + 1)) texts ++
        newLine level ++ [closing]

mutual

/-- The indented text of a value at a nesting level, in ASCII. -/
def renderIndented (level : Nat) : Json → List Char
  | .null => "null".toList
  | .bool value => (if value then "true" else "false").toList
  | .integer value => Numeral.ofInt value
  | .float value => writeFloat value
  | .string value => writeString true value
  | .array items => indented level '[' ']' (indentItems (level + 1) items)
  | .object members => indented level '\x7b' '\x7d' (indentMembers (level + 1) members)

/-- The indented texts of the items of an array. -/
def indentItems (level : Nat) : List Json → List (List Char)
  | [] => []
  | item :: rest => renderIndented level item :: indentItems level rest

/-- The indented texts of the members of an object. -/
def indentMembers (level : Nat) : List (String × Json) → List (List Char)
  | [] => []
  | (name, value) :: rest =>
      (writeString true name ++ ':' :: ' ' :: renderIndented level value) ::
        indentMembers level rest

end

/-- The indented text of a value, if it has one. -/
def writeIndented (value : Json) : Except Numeral.Error String :=
  if value.isWritable then .ok (String.ofList (value.renderIndented 0)) else .error .unwritable

end ServerConfig.Json
