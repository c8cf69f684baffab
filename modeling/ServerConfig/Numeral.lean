import ServerConfig.Text.Blank
import ServerConfig.Text.Digit
import ServerConfig.Text.Quoted

/-!
# Decimal integers in text

Integers are read from and written to decimal text only up to a fixed number
of digits; beyond it either direction fails.  A reader accepts the decimal
digits of every script.
-/

namespace ServerConfig.Numeral

/-- The most digits of an integer that is read or written. -/
def digitLimit : Nat := 4300

/-- Why a text is not read as an integer, or an integer not written. -/
inductive Error where
  /-- The text has this many digits, which are too many. -/
  | tooLong (digits : Nat)
  /-- The integer to be written has too many digits. -/
  | unwritable
  /-- The text is no integer. -/
  | malformed (text : String)
deriving DecidableEq, Repr

/-- The longest part of a quoted text that a message repeats. -/
def shownLength : Nat := 200

def Error.message : Error → String
  | .tooLong digits =>
      "Exceeds the limit (" ++ toString digitLimit ++
        " digits) for integer string conversion: value has " ++ toString digits ++
        " digits; use sys.set_int_max_str_digits() to increase the limit"
  | .unwritable =>
      "Exceeds the limit (" ++ toString digitLimit ++
        " digits) for integer string conversion; " ++
        "use sys.set_int_max_str_digits() to increase the limit"
  | .malformed text =>
      "invalid literal for int() with base 10: " ++
        String.ofList ((Text.quotedChars text.toList).take shownLength)

/-- The number that a sequence of decimal digits denotes. -/
def ofDigits (digits : List Nat) : Nat :=
  digits.foldl (fun value digit => 10 * value + digit) 0

/-- The decimal text of a natural number. -/
def ofNat (n : Nat) : List Char :=
  Nat.toDigits 10 n

/-- The decimal text of an integer, however long. -/
def ofInt : Int → List Char
  | .ofNat n => ofNat n
  | .negSucc n => '-' :: ofNat (n + 1)

/-- The decimal text of an integer within the limit. -/
def write (n : Int) : Except Error String :=
  if (ofNat n.natAbs).length ≤ digitLimit then .ok (String.ofList (ofInt n))
  else .error .unwritable

/-- The number that a run of decimal digits denotes, within the limit. -/
def readDigits (digits : List Nat) : Except Error Nat :=
  if digits.length ≤ digitLimit then .ok (ofDigits digits)
  else .error (.tooLong digits.length)

/-- Read a text of digits.  Digits that are not decimal digits are refused, but
the decimal digits before them are counted first. -/
def readNat (text : List Char) : Except Error Nat := do
  let value ← readDigits ((text.takeWhile Text.isDecimal).filterMap Text.decimalValue?)
  if text.all Text.isDecimal && !text.isEmpty then .ok value
  else .error (.malformed (String.ofList text))

/-- Split a sign from a text: whether it is a minus, and what follows. -/
def cutSign : List Char → Bool × List Char
  | '+' :: rest => (false, rest)
  | '-' :: rest => (true, rest)
  | text => (false, text)

theorem suffix_cutSign (text : List Char) : (cutSign text).2 <:+ text := by
  unfold cutSign
  split
  · exact List.suffix_cons _ _
  · exact List.suffix_cons _ _
  · exact List.suffix_rfl

/-- Give a number a sign. -/
def signed (negative : Bool) (value : Nat) : Int :=
  if negative then -(value : Int) else value

/-- The ASCII digits at the start of a text, and the rest. -/
def spanDigits (text : List Char) : List Char × List Char :=
  (text.takeWhile Char.isDigit, text.dropWhile Char.isDigit)

def digitValues (digits : List Char) : List Nat :=
  digits.map fun c => c.toNat - 0x30

def ofAscii (digits : List Char) : Nat :=
  ofDigits (digitValues digits)

/-- Digits in which single low lines may separate two digits. -/
def separatedDigits? : List Char → Option (List Nat)
  | [] => none
  | [c] => (Text.decimalValue? c).map ([·])
  | c :: '_' :: rest => do
      let digit ← Text.decimalValue? c
      let later ← separatedDigits? rest
      return digit :: later
  | c :: rest => do
      let digit ← Text.decimalValue? c
      let later ← separatedDigits? rest
      return digit :: later

/-- Read an integer with an optional sign, in which blanks may surround the
text and single low lines may separate digits. -/
def readInt? (text : List Char) : Option Int := do
  let (negative, body) := cutSign (Text.trim text)
  let digits ← separatedDigits? body
  if digits.length ≤ digitLimit then return signed negative (ofDigits digits) else none

end ServerConfig.Numeral
