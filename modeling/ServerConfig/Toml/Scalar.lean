import ServerConfig.Datum

/-!
# Scalars of TOML documents

Dates, times, numbers and the names of special numbers, each read at the start
of a text.  A reader that does not find its form gives `none`; a form that it
finds may still be malformed.
-/

namespace ServerConfig.Toml

/-- Why a document cannot be read. -/
inductive Error where
  | malformed
  /-- An integer has too many digits. -/
  | numeral (cause : Numeral.Error)
deriving DecidableEq, Repr

/-- What reading gives, unless it fails. -/
abbrev Result := Except Error

/-- A number of two decimal digits within bounds. -/
def readTwo? (least greatest : Nat) : List Char → Option (Nat × List Char)
  | a :: b :: rest =>
      if a.isDigit && b.isDigit then
        let value := Numeral.ofAscii [a, b]
        if least ≤ value && value ≤ greatest then some (value, rest) else none
      else none
  | _ => none

def expect? (expected : Char) : List Char → Option (List Char)
  | c :: rest => if c = expected then some rest else none
  | [] => none

/-- A date, whether it exists or not. -/
def readDate? (text : List Char) : Option (Date × List Char) := do
  let (century, rest) ← readTwo? 0 99 text
  let (year, rest) ← readTwo? 0 99 rest
  let rest ← expect? '-' rest
  let (month, rest) ← readTwo? 1 12 rest
  let rest ← expect? '-' rest
  let (day, rest) ← readTwo? 1 31 rest
  return (⟨100 * century + year, month, day⟩, rest)

/-- A fraction of a second in microseconds, further digits cut off. -/
def readMicroseconds (text : List Char) : Nat × List Char :=
  match text with
  | '.' :: after =>
      let (digits, rest) := Numeral.spanDigits after
      if digits.isEmpty then (0, text)
      else
        let kept := digits.take 6
        (Numeral.ofAscii kept * Nat.pow 10 (6 - kept.length), rest)
  | _ => (0, text)

def readTime? (text : List Char) : Option (TimeOfDay × List Char) := do
  let (hour, rest) ← readTwo? 0 23 text
  let rest ← expect? ':' rest
  let (minute, rest) ← readTwo? 0 59 rest
  let rest ← expect? ':' rest
  let (second, rest) ← readTwo? 0 59 rest
  let (microsecond, rest) := readMicroseconds rest
  return (⟨hour, minute, second, microsecond⟩, rest)

/-- An offset from universal time in minutes. -/
def readOffset? (text : List Char) : Option (Int × List Char) :=
  match text with
  | [] => none
  | c :: rest =>
      if c = 'Z' || c = 'z' then some (0, rest)
      else if c = '+' || c = '-' then do
        let (hours, rest) ← readTwo? 0 23 rest
        let rest ← expect? ':' rest
        let (minutes, rest) ← readTwo? 0 59 rest
        return (Numeral.signed (c = '-') (60 * hours + minutes), rest)
      else none

/-- The time of day that may follow a date. -/
def readDayTime? : List Char → Option (TimeOfDay × List Char)
  | [] => none
  | c :: rest => if c = 'T' || c = 't' || c = ' ' then readTime? rest else none

/-- A date, a time, or both. -/
def readMoment? (text : List Char) : Option (Result (Moment × List Char)) :=
  match readDate? text with
  | some (day, rest) =>
      if !Moment.isDate day then some (.error .malformed)
      else
        match readDayTime? rest with
        | none => some (.ok (.date day, rest))
        | some (time, rest) =>
            match readOffset? rest with
            | some (offset, rest) => some (.ok (.dateTime day time (some offset), rest))
            | none => some (.ok (.dateTime day time none, rest))
  | none => (readTime? text).map fun (time, rest) => .ok (.time time, rest)

/-- Digits of which each may follow a low line. -/
def spanGrouped (isDigit : Char → Bool) : List Char → List Char × List Char
  | '_' :: c :: rest =>
      if isDigit c then
        let (digits, rest) := spanGrouped isDigit rest
        (c :: digits, rest)
      else ([], '_' :: c :: rest)
  | c :: rest =>
      if isDigit c then
        let (digits, rest) := spanGrouped isDigit rest
        (c :: digits, rest)
      else ([], c :: rest)
  | [] => ([], [])

/-- At least one digit, the further ones possibly after low lines. -/
def readGrouped? (isDigit : Char → Bool) : List Char → Option (List Char × List Char)
  | [] => none
  | c :: rest =>
      if isDigit c then
        let (digits, rest) := spanGrouped isDigit rest
        some (c :: digits, rest)
      else none

/-- The base that a letter after a zero announces. -/
def baseOfLetter? (letter : Char) : Option Nat :=
  if letter = 'x' then some 16 else if letter = 'o' then some 8
  else if letter = 'b' then some 2 else none

/-- Whether a character is a digit to a base. -/
def isDigitOf (base : Nat) (c : Char) : Bool :=
  match Text.hexValue? c with
  | some value => value < base
  | none => false

/-- An integer to a base other than ten. -/
def readBased? : List Char → Option (Int × List Char)
  | '0' :: letter :: rest => do
      let base ← baseOfLetter? letter
      let (digits, rest) ← readGrouped? (isDigitOf base) rest
      let values := digits.filterMap Text.hexValue?
      let value := values.foldl (fun value digit => base * value + digit) 0
      return (value, rest)
  | _ => none

/-- The integer part of a decimal number: a zero, or digits without leading
zeros. -/
def readWhole? : List Char → Option (List Char × List Char)
  | '0' :: rest => some (['0'], rest)
  | text => readGrouped? Char.isDigit text

/-- The fractional part of a number, if there is one. -/
def readFraction (text : List Char) : Option (List Char) × List Char :=
  match text with
  | '.' :: after =>
      match readGrouped? Char.isDigit after with
      | some (digits, rest) => (some digits, rest)
      | none => (none, text)
  | _ => (none, text)

/-- The exponent part of a number, if there is one. -/
def readExponent (text : List Char) : Option Int × List Char :=
  match text with
  | c :: after =>
      if c = 'e' || c = 'E' then
        let (negative, unsigned) := Numeral.cutSign after
        match readGrouped? Char.isDigit unsigned with
        | some (digits, rest) =>
            (some (Numeral.signed negative (Numeral.ofAscii digits)), rest)
        | none => (none, text)
      else (none, text)
  | [] => (none, text)

/-- A decimal number: an integer, or a floating-point number where it has a
fraction or an exponent. -/
def readDecimal? (text : List Char) : Option (Result (Datum × List Char)) := do
  let (negative, unsigned) := Numeral.cutSign text
  let (whole, rest) ← readWhole? unsigned
  let (fraction?, rest) := readFraction rest
  let (exponent?, rest) := readExponent rest
  if fraction?.isNone && exponent?.isNone then
    match Numeral.readDigits (Numeral.digitValues whole) with
    | .error cause => return .error (.numeral cause)
    | .ok value => return .ok (.integer (Numeral.signed negative value), rest)
  else
    let fraction := fraction?.getD []
    let digits := Numeral.digitValues (whole ++ fraction)
    let exponent := exponent?.getD 0 - fraction.length
    return .ok (.float (.ofDecimal negative digits exponent), rest)

/-- The names of numbers that have no digits. -/
def namedNumbers : List (String × Binary64) :=
  [("inf", .infinite false), ("nan", .nan), ("-inf", .infinite true), ("+inf", .infinite false),
   ("-nan", .nan), ("+nan", .nan)]

def readNamed? (text : List Char) : Option (Result (Datum × List Char)) :=
  (namedNumbers.find? fun named => named.1.toList.isPrefixOf text).map fun named =>
    .ok (.float named.2, text.drop named.1.length)

/-- A moment or a number. -/
def readScalar (text : List Char) : Result (Datum × List Char) :=
  match readMoment? text with
  | some (.error cause) => .error cause
  | some (.ok (moment, rest)) => .ok (.moment moment, rest)
  | none =>
      match readBased? text with
      | some (value, rest) => .ok (.integer value, rest)
      | none => ((readDecimal? text) <|> (readNamed? text)).getD (.error .malformed)

end ServerConfig.Toml
