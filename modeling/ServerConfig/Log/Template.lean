import ServerConfig.Log.Conversion

/-!
# Message templates

A template is text in which conversions stand: a percent sign, optional flags,
width and precision, and the letter of a form.  Each conversion takes the next
argument, or the one that it names in parentheses; a width or precision that is
an asterisk takes an argument of its own.  A template without arguments stands
for itself.
-/

namespace ServerConfig.Log

/-- A width or precision: a number, or the next argument. -/
inductive Count where
  | number (n : Nat)
  | argument
deriving DecidableEq, Repr

/-- A conversion as it stands in a template. -/
structure Conversion where
  /-- The name of the argument, if the conversion names one. -/
  name : Option String
  flags : List Char
  width : Option Count
  precision : Option Count
  form : Form
deriving DecidableEq, Repr

def isFlag (c : Char) : Bool :=
  c = '-' || c = '0' || c = '+' || c = ' ' || c = '#'

/-- A width or precision at the start of a text. -/
def readCount : List Char → Option Count × List Char
  | '*' :: rest => (some .argument, rest)
  | text =>
      let (digits, rest) := Numeral.spanDigits text
      (if digits.isEmpty then none else some (.number (Numeral.ofAscii digits)), rest)

/-- A precision at the start of a text; a point alone stands for zero. -/
def readPrecision : List Char → Option Count × List Char
  | '.' :: rest =>
      let (count, rest) := readCount rest
      (some (count.getD (.number 0)), rest)
  | text => (none, text)

/-- The text up to the parenthesis that closes one more than `level` open
ones. -/
def readEnclosed? (level : Nat) : List Char → Option (List Char × List Char)
  | [] => none
  | c :: rest =>
      let onward (level : Nat) :=
        (readEnclosed? level rest).map fun (name, rest) => (c :: name, rest)
      if c = '(' then onward (level + 1)
      else if c = ')' then
        match level with
        | 0 => some ([], rest)
        | level + 1 => onward level
      else onward level

/-- The name of an argument in parentheses, if there is one. -/
def readName? : List Char → Option (Option String × List Char)
  | '(' :: rest =>
      (readEnclosed? 0 rest).map fun (name, rest) => (some (String.ofList name), rest)
  | text => some (none, text)

/-- Pass over one of the letters that make no difference to a conversion. -/
def dropLength : List Char → List Char
  | c :: rest => if c = 'h' || c = 'l' || c = 'L' then rest else c :: rest
  | [] => []

/-- A conversion whose percent sign has been passed. -/
def readConversion? (text : List Char) : Option (Conversion × List Char) := do
  let (name, rest) ← readName? text
  let flags := rest.takeWhile isFlag
  let (width, rest) := readCount (rest.dropWhile isFlag)
  let (precision, rest) := readPrecision rest
  match dropLength rest with
  | [] => none
  | letter :: rest =>
      let form ← Form.ofLetter? letter
      return (⟨name, flags, width, precision, form⟩, rest)

/-- The arguments that are still to be used. -/
structure Arguments where
  /-- The arguments that conversions take in order. -/
  pending : List Datum
  /-- The arguments that conversions name, if they may do so. -/
  named : Option (Entries Datum) := none

/-- The arguments of a template.  A single table that is not empty gives named
arguments as well. -/
def Arguments.ofList : List Datum → Arguments
  | [.table (entry :: rest)] => ⟨[.table (entry :: rest)], some (entry :: rest)⟩
  | values => ⟨values, none⟩

/-- Make the named argument the next one.  It takes the place of the ones that
are pending. -/
def Arguments.choose? (name : Option String) (arguments : Arguments) : Option Arguments :=
  match name with
  | none => some arguments
  | some name => do
      let entries ← arguments.named
      let value ← entries.lookup name
      return { arguments with pending := [value] }

/-- The next argument, and the arguments after it. -/
def Arguments.next? (arguments : Arguments) : Option (Datum × Arguments) :=
  match arguments.pending with
  | [] => none
  | value :: rest => some (value, { arguments with pending := rest })

/-- Whether no argument is left over.  Named arguments need not be used. -/
def Arguments.areUsedUp (arguments : Arguments) : Bool :=
  arguments.pending.isEmpty || arguments.named.isSome

/-- The number behind a width or precision, if there is one. -/
def Count.resolve? (arguments : Arguments) : Option Count → Option (Option Int × Arguments)
  | none => some (none, arguments)
  | some (.number n) => some (some n, arguments)
  | some .argument => do
      let (value, arguments) ← arguments.next?
      let n ← integerOf? value
      return (some n, arguments)

/-- How a conversion adjusts its form.  A negative width aligns to the left. -/
def Conversion.adjustment (conversion : Conversion) (width precision : Option Int) :
    Adjustment where
  leftAligned := conversion.flags.contains '-' || (width.getD 0 < 0 : Bool)
  zeroPadded := conversion.flags.contains '0'
  plusSign := conversion.flags.contains '+'
  spaceSign := conversion.flags.contains ' '
  explicit := conversion.flags.contains '#'
  width := (width.getD 0).natAbs
  precision := precision.map Int.toNat

/-- The text of a conversion, and the arguments that are left. -/
def Conversion.apply? (conversion : Conversion) (arguments : Arguments) :
    Option (List Char × Arguments) := do
  let arguments ← arguments.choose? conversion.name
  let (width, arguments) ← Count.resolve? arguments conversion.width
  let (precision, arguments) ← Count.resolve? arguments conversion.precision
  if conversion.form = .percent then return (['%'], arguments)
  let (value, arguments) ← arguments.next?
  let text ← conversion.form.apply? (conversion.adjustment width precision) value
  return (text, arguments)

/-- Fill a template.  The fuel bounds the number of its characters. -/
def fillFrom : Nat → Arguments → List Char → Option (List Char)
  | 0, _, _ => none
  | _ + 1, arguments, [] => if arguments.areUsedUp then some [] else none
  | fuel + 1, arguments, c :: rest =>
      if c = '%' then do
        let (conversion, rest) ← readConversion? rest
        let (text, arguments) ← conversion.apply? arguments
        let later ← fillFrom fuel arguments rest
        return text ++ later
      else do
        let later ← fillFrom fuel arguments rest
        return c :: later

/-- The message of a template with its arguments, if they fit. -/
def message? (template : String) (values : List Datum) : Option String :=
  if values.isEmpty then some template
  else
    let chars := template.toList
    (fillFrom (chars.length + 1) (.ofList values) chars).map String.ofList

end ServerConfig.Log
