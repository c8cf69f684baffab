import ServerConfig.Binary64
import ServerConfig.Numeral

/-!
# Double precision numbers in decimal text

A number is written with the fewest digits that read back as the same number.
Decimal exponents from -4 to 15 give positional notation, with at least one
digit after the point; others give one digit before the point and an exponent
of at least two digits.
-/

namespace ServerConfig.Binary64

/-- Decimal exponents beyond these bounds are certain to overflow, or to round
to zero. -/
def decimalReach : Int := 400

/-- The number nearest to `digits * 10 ^ exponent`, where `digits` are decimal
digits. -/
def ofDecimal (negative : Bool) (digits : List Nat) (exponent : Int) : Binary64 :=
  let significant := digits.dropWhile (· == 0)
  let magnitude : Int := significant.length + exponent
  if significant.isEmpty then zeroOf negative
  else if decimalReach < magnitude then .infinite negative
  else if magnitude < -decimalReach then zeroOf negative
  else
    let value := Numeral.ofDigits significant
    match exponent with
    | .ofNat e => ofFraction negative (value * Nat.pow 10 e) 1
    | .negSucc e => ofFraction negative value (Nat.pow 10 (e + 1))

/-- Whether the fraction `top / bottom` rounds to the given finite number.  The
ends of the interval belong to it when the significand is even. -/
def roundsTo (significand : Nat) (exponent : Int) (top bottom : Nat) : Bool :=
  ofFraction false top bottom == .finite false significand exponent

/-- The least positive number has its first digit in this place after the
decimal point. -/
def leastPlace : Nat := 324

/-- The number of digits before the decimal point of `top / bottom`; for a
fraction below a tenth it is negative. -/
def pointPosition (top bottom : Nat) : Int :=
  (Numeral.ofNat (top * Nat.pow 10 leastPlace / bottom)).length - leastPlace

/-- The fraction `count * 10 ^ exponent`. -/
def gridPoint (count : Nat) (exponent : Int) : Nat × Nat :=
  match exponent with
  | .ofNat e => (count * Nat.pow 10 e, 1)
  | .negSucc e => (count, Nat.pow 10 (e + 1))

/-- The fraction `top / bottom` in units of `10 ^ exponent`. -/
def inGridUnits (top bottom : Nat) (exponent : Int) : Nat × Nat :=
  match exponent with
  | .ofNat e => (top, bottom * Nat.pow 10 e)
  | .negSucc e => (top * Nat.pow 10 (e + 1), bottom)

/-- The nearest point with `length` digits that rounds to the number, if any. -/
def shortestOfLength? (significand : Nat) (exponent : Int) (length : Nat) : Option Nat :=
  let value := fraction significand exponent
  let unit := pointPosition value.1 value.2 - length
  let scaled := inGridUnits value.1 value.2 unit
  let below := scaled.1 / scaled.2
  let nearest := divNearest scaled.1 scaled.2
  let other := if nearest = below then below + 1 else below
  [nearest, other].find? fun count =>
    let point := gridPoint count unit
    roundsTo significand exponent point.1 point.2

/-- The shortest decimal that reads back as a positive finite number: its digits
and the position of the decimal point. -/
def shortest (significand : Nat) (exponent : Int) : List Char × Int :=
  let value := fraction significand exponent
  let found := (List.range 17).findSome? fun k =>
    (shortestOfLength? significand exponent (k + 1)).map fun count =>
      let digits := Numeral.ofNat count
      (digits, pointPosition value.1 value.2 + (digits.length - (k + 1 : Nat)))
  found.getD (['0'], 1)

/-- Drop the zeros at the end of a digit sequence. -/
def dropTrailingZeros (digits : List Char) : List Char :=
  Text.dropEndWhile (· == '0') digits

/-- Digits in positional notation, with the decimal point after `position`
digits. -/
def positional (digits : List Char) (position : Int) : List Char :=
  if position ≤ 0 then
    '0' :: '.' :: (List.replicate (-position).toNat '0' ++ digits)
  else
    let whole := position.toNat
    let padded := digits ++ List.replicate (whole - digits.length) '0'
    let after := padded.drop whole
    padded.take whole ++ '.' :: (if after.isEmpty then ['0'] else after)

/-- A power of ten after a mantissa, with at least two digits. -/
def powerText (power : Int) : List Char :=
  let size := Numeral.ofNat power.natAbs
  let padded := if size.length < 2 then '0' :: size else size
  'e' :: (if power < 0 then '-' else '+') :: padded

def scientific (digits : List Char) (position : Int) : List Char :=
  let mantissa :=
    match digits with
    | [] => ['0']
    | [digit] => [digit]
    | digit :: rest => digit :: '.' :: rest
  mantissa ++ powerText (position - 1)

/-- The text of a number.  Infinities are `inf` and `-inf`. -/
def toText : Binary64 → List Char
  | .nan => "nan".toList
  | .infinite negative => if negative then "-inf".toList else "inf".toList
  | .finite negative significand exponent =>
      let body :=
        if significand = 0 then "0.0".toList
        else
          let (allDigits, position) := shortest significand exponent
          let digits := dropTrailingZeros allDigits
          if -4 < position && position ≤ 16 then positional digits position
          else scientific digits position
      if negative then '-' :: body else body

/-- A finite number with `places` digits after the point, rounded to nearest
with ties to the even digit: the digits before the point and those after it. -/
def fixedParts (places : Nat) (significand : Nat) (exponent : Int) : List Char × List Char :=
  let (top, bottom) := fraction significand exponent
  let scaled := divNearest (top * Nat.pow 10 places) bottom
  let whole := Numeral.ofNat (scaled / Nat.pow 10 places)
  if places = 0 then (whole, [])
  else
    let digits := Numeral.ofNat (scaled % Nat.pow 10 places)
    (whole, List.replicate (places - digits.length) '0' ++ digits)

/-- A finite number with `places` digits after the point, without the point
where there are none. -/
def toFixed (places : Nat) (significand : Nat) (exponent : Int) : List Char :=
  match fixedParts places significand exponent with
  | (whole, []) => whole
  | (whole, digits) => whole ++ '.' :: digits

/-- A finite number rounded to `count` significant digits, ties to the even
digit: the digits and the position of the decimal point. -/
def significant (count : Nat) (significand : Nat) (exponent : Int) : List Char × Int :=
  if significand = 0 then (List.replicate count '0', 1)
  else
    let (top, bottom) := fraction significand exponent
    let position := pointPosition top bottom
    let (scaledTop, scaledBottom) := inGridUnits top bottom (position - count)
    let digits := Numeral.ofNat (divNearest scaledTop scaledBottom)
    (digits.take count, position + (digits.length - count))

end ServerConfig.Binary64
