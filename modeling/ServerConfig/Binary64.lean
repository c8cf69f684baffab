/-!
# Double precision numbers

The IEEE 754 format `binary64` as exact data: a finite number is an integer
times a power of two.  Every operation computes the exact result and then
rounds once, to the nearest number with ties to the even significand.
-/

namespace ServerConfig

/-- A double precision number.  A finite one is `significand * 2 ^ exponent`. -/
inductive Binary64 where
  | finite (negative : Bool) (significand : Nat) (exponent : Int)
  | infinite (negative : Bool)
  | nan
deriving DecidableEq, Repr, Inhabited

namespace Binary64

/-- Significands of normal numbers lie below this power of two. -/
def precision : Nat := 53

/-- The exponent of the subnormal numbers, which is the least. -/
def minExponent : Int := -1074

/-- The greatest exponent of a finite number. -/
def maxExponent : Int := 971

def zeroOf (negative : Bool) : Binary64 :=
  .finite negative 0 minExponent

/-- Divide and round to the nearest integer, ties to the even one. -/
def divNearest (numerator denominator : Nat) : Nat :=
  let quotient := numerator / denominator
  let remainder := numerator % denominator
  if 2 * remainder < denominator then quotient
  else if denominator < 2 * remainder then quotient + 1
  else if quotient % 2 = 0 then quotient
  else quotient + 1

/-- The fraction `numerator / denominator` divided by `2 ^ exponent`, as a
fraction. -/
def scaleDown (numerator denominator : Nat) (exponent : Int) : Nat × Nat :=
  match exponent with
  | .ofNat e => (numerator, denominator * Nat.pow 2 e)
  | .negSucc e => (numerator * Nat.pow 2 (e + 1), denominator)

/-- The exponent with which a positive fraction has a significand of full
precision, or the least exponent. -/
def exponentFor (numerator denominator : Nat) : Int :=
  let guess : Int := (numerator.log2 : Int) - denominator.log2 - precision
  let (scaled, unit) := scaleDown numerator denominator guess
  let exact := if Nat.pow 2 precision ≤ scaled / unit then guess + 1 else guess
  max exact minExponent

/-- The number nearest to a fraction with a positive denominator. -/
def ofFraction (negative : Bool) (numerator denominator : Nat) : Binary64 :=
  if numerator = 0 then zeroOf negative
  else
    let exponent := exponentFor numerator denominator
    let (scaled, unit) := scaleDown numerator denominator exponent
    let significand := divNearest scaled unit
    let (significand, exponent) :=
      if significand = Nat.pow 2 precision then (Nat.pow 2 (precision - 1), exponent + 1)
      else (significand, exponent)
    if maxExponent < exponent then .infinite negative
    else .finite negative significand exponent

def ofInt (n : Int) : Binary64 :=
  ofFraction (n < 0) n.natAbs 1

/-- The absolute value of a finite number as a fraction. -/
def fraction (significand : Nat) (exponent : Int) : Nat × Nat :=
  match exponent with
  | .ofNat e => (significand * Nat.pow 2 e, 1)
  | .negSucc e => (significand, Nat.pow 2 (e + 1))

/-- The product with a fraction whose denominator is positive. -/
def scale (x : Binary64) (numerator denominator : Nat) : Binary64 :=
  match x with
  | .finite negative significand exponent =>
      let (top, bottom) := fraction significand exponent
      ofFraction negative (top * numerator) (bottom * denominator)
  | other => other

/-- The integer part of a finite number, with its sign. -/
def truncate? : Binary64 → Option Int
  | .finite negative significand exponent =>
      let (top, bottom) := fraction significand exponent
      let magnitude : Int := (top / bottom : Nat)
      some (if negative then -magnitude else magnitude)
  | _ => none

/-- Whether a number is finite and has no fractional part. -/
def isIntegral : Binary64 → Bool
  | .finite _ significand exponent =>
      let (top, bottom) := fraction significand exponent
      top % bottom = 0
  | _ => false

end Binary64

end ServerConfig
