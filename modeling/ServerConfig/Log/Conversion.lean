import ServerConfig.Datum

/-!
# Conversions of message templates

A conversion turns an argument of a message into text.  It chooses a form, and
flags, a width and a precision adjust that form: numbers are filled up with
zeros behind their sign, texts are cut off at the precision, and everything is
filled up with blanks to the width.
-/

namespace ServerConfig.Log

/-- The forms of arguments in messages.  Where a form has letters, they may be
capital ones. -/
inductive Form where
  | text
  | quoted
  /-- Quoted, with escapes for all characters beyond ASCII. -/
  | ascii
  | decimal
  | octal
  | hexadecimal (capital : Bool)
  | character
  | fixed (capital : Bool)
  | scientific (capital : Bool)
  /-- Fixed or scientific, depending on the size of the number. -/
  | general (capital : Bool)
  /-- The percent sign itself, which takes no argument. -/
  | percent
deriving DecidableEq, Repr

def Form.letters : List (Char × Form) :=
  [('s', .text), ('r', .quoted), ('a', .ascii), ('d', .decimal), ('i', .decimal), ('u', .decimal),
   ('o', .octal), ('x', .hexadecimal false), ('X', .hexadecimal true), ('c', .character),
   ('f', .fixed false), ('F', .fixed true), ('e', .scientific false), ('E', .scientific true),
   ('g', .general false), ('G', .general true), ('%', .percent)]

def Form.ofLetter? (letter : Char) : Option Form :=
  letters.lookup letter

/-- How a form is adjusted. -/
structure Adjustment where
  leftAligned : Bool := false
  zeroPadded : Bool := false
  plusSign : Bool := false
  spaceSign : Bool := false
  /-- Announce the base of an integer, and keep the point and the zeros of a
  number. -/
  explicit : Bool := false
  width : Nat := 0
  precision : Option Nat := none
deriving DecidableEq, Repr

namespace Adjustment

/-- Fill a text up with blanks to the width. -/
def pad (adjustment : Adjustment) (text : List Char) : List Char :=
  let blanks := List.replicate (adjustment.width - text.length) ' '
  if adjustment.leftAligned then text ++ blanks else blanks ++ text

/-- A text cut off at the precision and filled up to the width. -/
def ofText (adjustment : Adjustment) (text : List Char) : List Char :=
  match adjustment.precision with
  | some length => adjustment.pad (text.take length)
  | none => adjustment.pad text

def signOf (adjustment : Adjustment) (negative : Bool) : List Char :=
  if negative then ['-']
  else if adjustment.plusSign then ['+']
  else if adjustment.spaceSign then [' ']
  else []

/-- A number filled up to the width, with zeros behind its sign and the
announcement of its base or with blanks. -/
def ofNumber (adjustment : Adjustment) (negative : Bool) (announcement digits : List Char) :
    List Char :=
  let start := adjustment.signOf negative ++ announcement
  if adjustment.zeroPadded && !adjustment.leftAligned then
    start ++ List.replicate (adjustment.width - start.length - digits.length) '0' ++ digits
  else adjustment.pad (start ++ digits)

/-- An integer to a base, with at least as many digits as the precision says. -/
def ofInteger (adjustment : Adjustment) (base : Nat) (announcement : List Char) (n : Int) :
    List Char :=
  let digits := Nat.toDigits base n.natAbs
  let zeros := List.replicate (adjustment.precision.getD 0 - digits.length) '0'
  adjustment.ofNumber (n < 0) (if adjustment.explicit then announcement else []) (zeros ++ digits)

/-- Digits before and after a decimal point.  The point goes with the last digit
after it unless the number is to be explicit. -/
def withPoint (adjustment : Adjustment) (whole digits : List Char) : List Char :=
  if digits.isEmpty && !adjustment.explicit then whole else whole ++ '.' :: digits

/-- The digits after the point without the zeros at their end, unless the number
is to be explicit. -/
def withoutZeros (adjustment : Adjustment) (digits : List Char) : List Char :=
  if adjustment.explicit then digits else Binary64.dropTrailingZeros digits

/-- The digits after the point of a number whose precision is not given. -/
def defaultPlaces : Nat := 6

/-- The precision of a number. -/
def places (adjustment : Adjustment) : Nat :=
  adjustment.precision.getD defaultPlaces

def fixedDigits (adjustment : Adjustment) (significand : Nat) (exponent : Int) : List Char :=
  let (whole, digits) := Binary64.fixedParts adjustment.places significand exponent
  adjustment.withPoint whole digits

def scientificDigits (adjustment : Adjustment) (significand : Nat) (exponent : Int) :
    List Char :=
  let (digits, position) := Binary64.significant (adjustment.places + 1) significand exponent
  adjustment.withPoint (digits.take 1) (digits.drop 1) ++ Binary64.powerText (position - 1)

/-- A finite number with as many significant digits as the precision says, in
scientific notation where its power of ten is below -4 or beyond these digits. -/
def generalDigits (adjustment : Adjustment) (significand : Nat) (exponent : Int) : List Char :=
  let count := max adjustment.places 1
  let (digits, position) := Binary64.significant count significand exponent
  if -4 < position && position ≤ count then
    if position ≤ 0 then
      let zeros := List.replicate (-position).toNat '0'
      adjustment.withPoint ['0'] (adjustment.withoutZeros (zeros ++ digits))
    else
      let whole := position.toNat
      adjustment.withPoint (digits.take whole) (adjustment.withoutZeros (digits.drop whole))
  else
    adjustment.withPoint (digits.take 1) (adjustment.withoutZeros (digits.drop 1)) ++
      Binary64.powerText (position - 1)

/-- Capital letters where they are asked for. -/
def inCase (capital : Bool) (text : List Char) : List Char :=
  if capital then text.map Char.toUpper else text

/-- A floating-point number whose finite values a notation writes. -/
def ofFloat (adjustment : Adjustment) (capital : Bool)
    (notate : Nat → Int → List Char) : Binary64 → List Char
  | .finite negative significand exponent =>
      adjustment.ofNumber negative [] (inCase capital (notate significand exponent))
  | .infinite negative => adjustment.ofNumber negative [] (inCase capital "inf".toList)
  | .nan => adjustment.ofNumber false [] (inCase capital "nan".toList)

end Adjustment

/-- The integer that an argument counts as. -/
def integerOf? : Datum → Option Int
  | .integer n => some n
  | .bool value => some (if value then 1 else 0)
  | _ => none

/-- The integer that an argument amounts to, its fractional part dropped. -/
def truncated? : Datum → Option Int
  | .float x => x.truncate?
  | datum => integerOf? datum

/-- The floating-point number nearest to an argument, if it has one. -/
def floatOf? : Datum → Option Binary64
  | .float x => some x
  | datum =>
      match (integerOf? datum).map Binary64.ofInt with
      | some (.finite negative significand exponent) =>
          some (.finite negative significand exponent)
      | _ => none

/-- The single character that an argument is or has the code point of. -/
def characterOf? : Datum → Option Char
  | .string text =>
      match text.toList with
      | [c] => some c
      | _ => none
  | datum =>
      match integerOf? datum with
      | some (.ofNat code) => if code.isValidChar then some (Char.ofNat code) else none
      | _ => none

/-- The characters of an argument as a text of its own. -/
def plainText? (datum : Datum) : Option (List Char) :=
  if datum.isWritable then some datum.text.toList else none

/-- The characters of an argument as a text in quotation marks. -/
def quotedText? (datum : Datum) : Option (List Char) :=
  datum.shown.toOption.map String.toList

/-- Escapes for all characters beyond ASCII. -/
def asciiOnly (text : List Char) : List Char :=
  text.flatMap fun c => if c.toNat < 0x80 then [c] else Text.numericEscape c

/-- The text of an argument in a form, if it has one. -/
def Form.apply? (form : Form) (adjustment : Adjustment) (datum : Datum) : Option (List Char) :=
  match form with
  | .text => (plainText? datum).map adjustment.ofText
  | .quoted => (quotedText? datum).map adjustment.ofText
  | .ascii => (quotedText? datum).map fun text => adjustment.ofText (asciiOnly text)
  | .decimal =>
      (truncated? datum).bind fun n =>
        if (Datum.integer n).isWritable then some (adjustment.ofInteger 10 [] n) else none
  | .octal => (integerOf? datum).map (adjustment.ofInteger 8 ['0', 'o'])
  | .hexadecimal capital =>
      (integerOf? datum).map fun n =>
        Adjustment.inCase capital (adjustment.ofInteger 16 ['0', 'x'] n)
  | .character => (characterOf? datum).map fun c => adjustment.pad [c]
  | .fixed capital => (floatOf? datum).map (adjustment.ofFloat capital adjustment.fixedDigits)
  | .scientific capital =>
      (floatOf? datum).map (adjustment.ofFloat capital adjustment.scientificDigits)
  | .general capital =>
      (floatOf? datum).map (adjustment.ofFloat capital adjustment.generalDigits)
  | .percent => none

end ServerConfig.Log
