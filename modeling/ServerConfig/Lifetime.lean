import ServerConfig.Numeral
import ServerConfig.Text.Case
import ServerConfig.Text.Search

/-!
# Lifetimes

A lifetime is a number of seconds, where a negative number stands for an
unbounded lifetime.  It is read from a number of seconds or from amounts with a
unit, such as `1h30m`.
-/

namespace ServerConfig.Lifetime

inductive TimeUnit where
  | second
  | minute
  | hour
  | day
deriving DecidableEq, Repr

def TimeUnit.seconds : TimeUnit → Nat
  | .second => 1
  | .minute => 60
  | .hour => 3600
  | .day => 86400

def TimeUnit.letter : TimeUnit → Char
  | .second => 's'
  | .minute => 'm'
  | .hour => 'h'
  | .day => 'd'

/-- All units, the longest first. -/
def TimeUnit.all : List TimeUnit := [.day, .hour, .minute, .second]

def TimeUnit.ofLetter? (c : Char) : Option TimeUnit :=
  TimeUnit.all.find? (·.letter == c)

/-- Why a text is no lifetime. -/
inductive Error where
  | empty
  | malformed (text : String)
  | numeral (cause : Numeral.Error)
deriving DecidableEq, Repr

def Error.message : Error → String
  | .empty => "empty duration"
  | .malformed text => "invalid duration " ++ Text.quoted text
  | .numeral cause => cause.message

/-- An amount with a unit: decimal digits, all that there are, and a letter. -/
def amountPattern : Text.Pattern (List Nat × TimeUnit) := fun c rest =>
  let number := (c :: rest).takeWhile Text.isDecimal
  let behind := (c :: rest).dropWhile Text.isDecimal
  if number.isEmpty then none
  else
    (behind.head?.bind TimeUnit.ofLetter?).map fun unit =>
      (number.length, (number.filterMap Text.decimalValue?, unit))

/-- Sum up amounts with units as long as each one starts where the one before
it stopped: the place of the last stop, and the seconds. -/
def sumAmounts (place sum : Nat) :
    List (Text.Found (List Nat × TimeUnit)) → Except Numeral.Error (Nat × Nat)
  | [] => .ok (place, sum)
  | ⟨start, stop, (digits, unit)⟩ :: later =>
      if start ≠ place then .ok (place, sum)
      else
        match Numeral.readDigits digits with
        | .error cause => .error cause
        | .ok amount => sumAmounts stop (sum + amount * unit.seconds) later

def isSign (c : Char) : Bool := c = '+' || c = '-'

/-- The seconds of a text without signs: a number, or amounts with units that
leave nothing over. -/
def readBody (whole : String) (body : List Char) : Except Error Nat :=
  if body.all Text.isDigit && !body.isEmpty then
    (Numeral.readNat body).mapError .numeral
  else
    match sumAmounts 0 0 (Text.findAll amountPattern body) with
    | .error cause => .error (.numeral cause)
    | .ok (place, seconds) =>
        if place = 0 || place ≠ body.length then .error (.malformed whole)
        else .ok seconds

/-- Read a lifetime.  A text that starts with a minus denotes an unbounded
lifetime, unless the number after the signs is zero. -/
def parse (text : String) : Except Error Int := do
  let shown := Text.lower (Text.trim text.toList)
  if shown.isEmpty then throw .empty
  let seconds ← readBody text (shown.dropWhile isSign)
  if shown.head? = some '-' && seconds ≠ 0 then return -1 else return (seconds : Int)

/-- The amounts of a number of seconds in the given units, zero amounts left
out. -/
def amounts : List TimeUnit → Nat → List (Nat × TimeUnit)
  | [], _ => []
  | unit :: units, seconds =>
      let amount := seconds / unit.seconds
      let rest := amounts units (seconds % unit.seconds)
      if amount = 0 then rest else (amount, unit) :: rest

/-- The text of amounts with units. -/
def amountsText : List (Nat × TimeUnit) → List Char
  | [] => []
  | (amount, unit) :: rest => Numeral.ofNat amount ++ unit.letter :: amountsText rest

/-- The text of a lifetime, however long. -/
def formatChars (lifetime : Int) : List Char :=
  if lifetime < 0 then "unlimited".toList
  else if lifetime = 0 then "0s".toList
  else amountsText (amounts TimeUnit.all lifetime.toNat)

/-- Whether every amount of a lifetime stays within the digit limit. -/
def isWritable (lifetime : Int) : Bool :=
  (amounts TimeUnit.all lifetime.toNat).all fun amount =>
    (Numeral.ofNat amount.1).length ≤ Numeral.digitLimit

def format (lifetime : Int) : Except Numeral.Error String :=
  if isWritable lifetime then .ok (String.ofList (formatChars lifetime))
  else .error .unwritable

end ServerConfig.Lifetime
