import ServerConfig.Json
import ServerConfig.Binary64.Decimal

/-!
# Reading JSON text

The grammar is the one of RFC 8259 with the three names `NaN`, `Infinity` and
`-Infinity` for floating-point numbers.  Nesting is limited, and so is the
length of an integer part.  Reading is a function on the rest of the text; the
fuel of each loop is the length of what is left.
-/

namespace ServerConfig.Json

/-- The containers that may enclose a value. -/
def depthLimit : Nat := 200

/-- The characters allowed between tokens. -/
def isSpace (c : Char) : Bool :=
  c = ' ' || c = '\n' || c = '\r' || c = '\t'

def skipSpace (text : List Char) : List Char :=
  text.dropWhile isSpace

/-- The code unit written by four hexadecimal digits. -/
def readUnit : List Char → Option (Nat × List Char)
  | a :: b :: c :: d :: rest => do
      let a ← Text.hexValue? a
      let b ← Text.hexValue? b
      let c ← Text.hexValue? c
      let d ← Text.hexValue? d
      return (((a * 16 + b) * 16 + c) * 16 + d, rest)
  | _ => none

/-- A code unit of the first half of a surrogate pair. -/
def isHighSurrogate (unit : Nat) : Bool := 0xD800 ≤ unit && unit ≤ 0xDBFF

/-- A code unit of the second half of a surrogate pair. -/
def isLowSurrogate (unit : Nat) : Bool := 0xDC00 ≤ unit && unit ≤ 0xDFFF

/-- The character of a surrogate pair. -/
def ofSurrogates (high low : Nat) : Char :=
  Char.ofNat (0x10000 + (high - 0xD800) * 0x400 + (low - 0xDC00))

/-- The character after the `\u` of an escape, which is a surrogate pair where
the first code unit is the first half of one. -/
def readUnicodeEscape (text : List Char) : Option (Char × List Char) := do
  let (unit, rest) ← readUnit text
  if isHighSurrogate unit then
    match rest with
    | '\\' :: 'u' :: rest =>
        let (low, rest) ← readUnit rest
        if isLowSurrogate low then return (ofSurrogates unit low, rest) else none
    | _ => none
  else if isLowSurrogate unit then none
  else return (Char.ofNat unit, rest)

/-- The character after the reverse solidus of an escape. -/
def readEscape : List Char → Option (Char × List Char)
  | [] => none
  | c :: rest =>
      match c with
      | '"' => some ('"', rest)
      | '\\' => some ('\\', rest)
      | '/' => some ('/', rest)
      | 'b' => some ('\x08', rest)
      | 'f' => some ('\x0c', rest)
      | 'n' => some ('\n', rest)
      | 'r' => some ('\r', rest)
      | 't' => some ('\t', rest)
      | 'u' => readUnicodeEscape rest
      | _ => none

/-- The characters of a string up to its closing quotation mark. -/
def readChars : Nat → List Char → Option (List Char × List Char)
  | 0, _ => none
  | _ + 1, [] => none
  | fuel + 1, c :: rest =>
      if c = '"' then some ([], rest)
      else if c.toNat < 0x20 then none
      else do
        let (char, rest) ← if c = '\\' then readEscape rest else some (c, rest)
        let (chars, rest) ← readChars fuel rest
        return (char :: chars, rest)

/-- A string, its opening quotation mark already passed. -/
def readString (text : List Char) : Option (String × List Char) :=
  (readChars (text.length + 1) text).map fun (chars, rest) => (String.ofList chars, rest)

/-- A fractional part: its digits, none when there is no decimal point. -/
def readFraction : List Char → Option (Option (List Char) × List Char)
  | '.' :: rest =>
      let (digits, rest) := Numeral.spanDigits rest
      if digits.isEmpty then none else some (some digits, rest)
  | text => some (none, text)

/-- The power of ten of an exponent part, if there is one. -/
def readExponent : List Char → Option (Option Int × List Char)
  | c :: rest =>
      if c = 'e' || c = 'E' then
        let (negative, rest) := Numeral.cutSign rest
        let (digits, rest) := Numeral.spanDigits rest
        if digits.isEmpty then none
        else some (some (Numeral.signed negative (Numeral.ofAscii digits)), rest)
      else some (none, c :: rest)
  | [] => some (none, [])

/-- A number without its sign.  With a fraction or an exponent it is a
floating-point number, else an integer. -/
def readUnsigned (negative : Bool) (text : List Char) : Option (Json × List Char) := do
  let (whole, rest) := Numeral.spanDigits text
  if whole.isEmpty || (whole.head? == some '0' && 1 < whole.length) then none
  if Numeral.digitLimit < whole.length then none
  let (fraction?, rest) ← readFraction rest
  let (exponent?, rest) ← readExponent rest
  if fraction?.isNone && exponent?.isNone then
    return (.integer (Numeral.signed negative (Numeral.ofAscii whole)), rest)
  else
    let fraction := fraction?.getD []
    let exponent := exponent?.getD 0 - fraction.length
    return (.float (.ofDecimal negative (Numeral.digitValues (whole ++ fraction)) exponent), rest)

/-- A name that stands for one value. -/
def readName (name : String) (value : Json) (text : List Char) : Option (Json × List Char) :=
  if name.toList.isPrefixOf text then some (value, text.drop name.length) else none

/-- A number with its sign, infinities included. -/
def readNumber : List Char → Option (Json × List Char)
  | '-' :: rest =>
      if rest.head? = some 'I' then readName "Infinity" (.float (.infinite true)) rest
      else readUnsigned true rest
  | text => readUnsigned false text

/-- Items separated by commas, up to `close`. -/
def readItems {α : Type} (item : List Char → Option (α × List Char)) (close : Char) :
    Nat → List Char → Option (List α × List Char)
  | 0, _ => none
  | fuel + 1, text => do
      let (first, rest) ← item (skipSpace text)
      match skipSpace rest with
      | [] => none
      | c :: rest =>
          if c = close then return ([first], rest)
          else if c = ',' then
            let (later, rest) ← readItems item close fuel rest
            return (first :: later, rest)
          else none

/-- The items of a container, which may be empty, up to `close`. -/
def readContents {α : Type} (item : List Char → Option (α × List Char)) (close : Char)
    (text : List Char) : Option (List α × List Char) :=
  match skipSpace text with
  | [] => none
  | c :: rest => if c = close then some ([], rest) else readItems item close text.length (c :: rest)

def readMember (value : List Char → Option (Json × List Char)) :
    List Char → Option ((String × Json) × List Char)
  | '"' :: rest => do
      let (name, rest) ← readString rest
      match skipSpace rest with
      | ':' :: rest =>
          let (value, rest) ← value (skipSpace rest)
          return ((name, value), rest)
      | _ => none
  | _ => none

/-- A value enclosed by fewer than `depth` further containers. -/
def readValue : Nat → List Char → Option (Json × List Char)
  | _, [] => none
  | depth, c :: rest =>
      match c with
      | '"' => (readString rest).map fun (text, rest) => (.string text, rest)
      | 't' => readName "true" (.bool true) (c :: rest)
      | 'f' => readName "false" (.bool false) (c :: rest)
      | 'n' => readName "null" .null (c :: rest)
      | 'N' => readName "NaN" (.float .nan) (c :: rest)
      | 'I' => readName "Infinity" (.float (.infinite false)) (c :: rest)
      | '[' =>
          match depth with
          | 0 => none
          | depth + 1 =>
              (readContents (readValue depth) ']' rest).map fun (items, rest) =>
                (.array items, rest)
      | '\x7b' =>
          match depth with
          | 0 => none
          | depth + 1 =>
              (readContents (readMember (readValue depth)) '\x7d' rest).map
                fun (members, rest) => (.object (Entries.ofList members), rest)
      | _ => readNumber (c :: rest)

/-- The value that a whole text denotes, where at most `depth` containers may
enclose another. -/
def readWithin? (depth : Nat) (text : String) : Option Json :=
  match readValue depth (skipSpace text.toList) with
  | some (value, rest) => if (skipSpace rest).isEmpty then some value else none
  | none => none

/-- The value that a whole text denotes. -/
def read? (text : String) : Option Json :=
  readWithin? depthLimit text

end ServerConfig.Json
