import ServerConfig.Binary64.Decimal
import ServerConfig.Numeral.Lenient
import ServerConfig.Text.Case
import ServerConfig.Text.Word

/-!
# Sizes in bytes

A size is read from an integer, or from a decimal number with an optional unit.
The number is taken in double precision, and the product with the unit is
rounded once before its fractional part is dropped; an infinite product has no
integer part.
-/

namespace ServerConfig.ByteSize

/-- The powers that a unit can scale by, in the order of their letters. -/
def scaleLetters : List Char := ['k', 'm', 'g', 't', 'p', 'e']

/-- The bits of a named unit: bytes and bits, with decimal and binary scales.  A
scale letter alone stands for bytes in the decimal scale. -/
def bitsOfUnit? (name : List Char) : Option Nat :=
  match name with
  | [] => none
  | ['b'] => some 8
  | ['b', 'i', 't'] => some 1
  | letter :: rest =>
      match scaleLetters.findIdx? (· == letter) with
      | none => none
      | some index =>
          let decimal := Nat.pow 1000 (index + 1)
          let binary := Nat.pow 1024 (index + 1)
          match rest with
          | [] => some (8 * decimal)
          | ['b'] => some (8 * decimal)
          | ['i', 'b'] => some (8 * binary)
          | ['b', 'i', 't'] => some decimal
          | ['i', 'b', 'i', 't'] => some binary
          | _ => none

/-- A decimal number at the start of a text: its digits, the number of them
after the point, and the rest. -/
def readDecimal? (text : List Char) : Option (List Nat × Nat × List Char) :=
  let whole := text.takeWhile Text.isDecimal
  let after := text.dropWhile Text.isDecimal
  let values := List.filterMap Text.decimalValue?
  match after with
  | '.' :: rest =>
      let fraction := rest.takeWhile Text.isDecimal
      if !fraction.isEmpty then
        some (values (whole ++ fraction), fraction.length, rest.dropWhile Text.isDecimal)
      else if whole.isEmpty then none
      else some (values whole, 0, after)
  | _ => if whole.isEmpty then none else some (values whole, 0, after)

/-- The bits of the unit that follows a number; without a unit it is the byte. -/
def readUnit? (text : List Char) : Option Nat :=
  match (text.dropWhile Text.isBlank).takeWhile Text.isWord with
  | [] => some 8
  | name => bitsOfUnit? (Text.lower name)

/-- The bytes of a number of units, unless they exceed the range of double
precision. -/
def scaled? (digits : List Nat) (places bits : Nat) : Option Nat :=
  ((Binary64.ofDecimal false digits (-(places : Int))).scale bits 8).truncate?.map Int.toNat

/-- Why a text is not read as a size. -/
inductive Error where
  /-- The text denotes no size. -/
  | malformed (text : String)
  /-- The size is infinite in double precision. -/
  | infinite (text : String)
deriving DecidableEq, Repr

def Error.text : Error → String
  | .malformed text => text
  | .infinite text => text

def Error.message (cause : Error) : String :=
  "invalid size " ++ Text.quoted cause.text

/-- What becomes of infinite sizes.  They are refused like texts that denote no
size, or the overflow escapes as an error of its own, which nobody expects: the
releases of the library that reads sizes differ in this. -/
inductive Treatment where
  | refused
  | escapes
deriving DecidableEq, Repr

/-- Whether an error is a refusal of the text. -/
def Error.isExpected (treatment : Treatment) : Error → Bool
  | .malformed _ => true
  | .infinite _ => treatment == .refused

/-- Read a size.  Which texts are integers depends on whether the pattern of a
number with a unit matches: where it does, the text is an integer of digits in
any script, or else that number with its unit, and whatever follows the unit is
not looked at.  Where it does not, as behind a sign, only integers are sizes,
and they are read leniently. -/
def parse (text : String) : Except Error Nat :=
  let trimmed := Text.trim text.toList
  match readDecimal? trimmed with
  | some (digits, places, rest) =>
      match Numeral.readInt? trimmed, readUnit? rest with
      | some n, _ => .ok n.toNat
      | none, some bits =>
          match scaled? digits places bits with
          | some bytes => .ok bytes
          | none => .error (.infinite text)
      | none, none => .error (.malformed text)
  | none =>
      match Numeral.readLenient trimmed with
      | .ok n => if 0 ≤ n then .ok n.toNat else .error (.malformed text)
      | .error _ => .error (.malformed text)

/-- The binary units in which sizes are shown, with the places after the point. -/
def shownUnits : List (String × Nat) :=
  [("B", 0), ("KiB", 1), ("MiB", 1), ("GiB", 1), ("TiB", 1), ("PiB", 1)]

/-- A size that has no double precision approximation. -/
inductive Overflow where
  | overflow
deriving DecidableEq, Repr

def Overflow.message (_ : Overflow) : String := "int too large to convert to float"

/-- Show a number in the first unit in which it is below 1024, or else in the
unit after the last one. -/
def formatIn (significand : Nat) (exponent : Int) : List (String × Nat) → List Char
  | [] => Binary64.toFixed 1 significand exponent ++ "EiB".toList
  | (name, places) :: units =>
      let (top, bottom) := Binary64.fraction significand exponent
      if top < 1024 * bottom then Binary64.toFixed places significand exponent ++ name.toList
      else formatIn significand (exponent - 10) units

def format (bytes : Int) : Except Overflow String :=
  match Binary64.ofInt bytes with
  | .finite negative significand exponent =>
      let body := formatIn significand exponent shownUnits
      .ok (String.ofList (if negative then '-' :: body else body))
  | _ => .error .overflow

end ServerConfig.ByteSize
