import ServerConfig.Numeral
import ServerConfig.Text.Split

/-!
# Integers read leniently

A literal has ASCII digits without needless zeros, and a minus if it is
negative.  The lenient reader takes other texts as well: around the digits it
drops white space, a plus, needless zeros, a fraction that is zero, and single
low lines between digits.  The limit is one of digits: a minus is not counted.
-/

namespace ServerConfig.Numeral

/-- Why a text is not read leniently. -/
inductive LiteralError where
  | malformed
  | tooLong
deriving DecidableEq, Repr

/-- Read a literal whose sign is known.  One that is too long is found to be so
before what follows its digits is looked at. -/
def readBody (negative : Bool) (body : List Char) : Except LiteralError Int :=
  let digits := body.takeWhile Char.isDigit
  if digits.isEmpty || (digits.head? = some '0' && 1 < digits.length) then .error .malformed
  else if digitLimit < digits.length then .error .tooLong
  else if digits.length < body.length then .error .malformed
  else .ok (signed negative (ofAscii digits))

def readLiteral : List Char → Except LiteralError Int
  | '-' :: rest => readBody true rest
  | text => readBody false text

/-- Drop the leading zeros of a number, low lines among them included.  The last
character before the end or the decimal point stays. -/
def dropZeros (last : Char) : List Char → Option (List Char)
  | [] => some [last]
  | c :: rest =>
      if c = '0' || c = '_' then dropZeros c rest
      else if c.isDigit then some (c :: rest)
      else if c = '.' then some (last :: c :: rest)
      else none

/-- A number without redundant leading zeros. -/
def withoutLeadingZeros : List Char → Option (List Char)
  | [] => none
  | c :: rest =>
      if c = '0' then dropZeros c rest
      else if c.isDigit then some (c :: rest)
      else none

/-- A number without a fractional part that is zero. -/
def withoutZeroFraction (text : List Char) : List Char :=
  match Text.cutFirst '.' text with
  | (whole, some fraction) => if fraction.all (· == '0') then whole else text
  | (_, none) => text

/-- A number without its low lines, if none of them stands at an end or beside
another one. -/
def withoutLowLines (text : List Char) : List Char :=
  let digitRuns := Text.pieces '_' text
  if digitRuns.any List.isEmpty then text else digitRuns.flatten

/-- A number without anything needless. -/
def plainBody? (body : List Char) : Option (List Char) :=
  (withoutLeadingZeros body).map fun digits => withoutLowLines (withoutZeroFraction digits)

/-- Read an integer leniently: as a literal, or as the one that is left when
what is needless is dropped. -/
def readLenient (text : List Char) : Except LiteralError Int :=
  match readLiteral text with
  | .ok n => .ok n
  | .error .tooLong => .error .tooLong
  | .error .malformed =>
      let (negative, body) := cutSign (Text.stripWhile Text.isWhiteSpace text)
      match plainBody? body with
      | some plain => readBody negative plain
      | none => .error .malformed

end ServerConfig.Numeral
