import ServerConfig.Datum
import ServerConfig.Json.Reader
import ServerConfig.Numeral.Lenient
import ServerConfig.Settings

/-!
# Decoding values of settings

Values of configuration sources are decoded leniently: a number may be given as
a text, a flag as a number or as one of several words.  Values of environment
variables are texts and are read by stricter rules.  Both report every fault
together with its place.
-/

namespace ServerConfig

/-- Where in a value a fault lies: under a name, or at an index. -/
inductive Place where
  | name (name : String)
  | index (index : Nat)
deriving DecidableEq, Repr

/-- What is wrong with a value. -/
inductive FaultKind where
  | flagText
  | flagType
  | numberText
  | numberSize
  | numberFraction
  | numberType
  | notFinite
  | textType
  | textsType
  | mappingType
  | jsonText
  | jsonValue
deriving DecidableEq, Repr

def FaultKind.code : FaultKind → String
  | .flagText => "bool_parsing"
  | .flagType => "bool_type"
  | .numberText => "int_parsing"
  | .numberSize => "int_parsing_size"
  | .numberFraction => "int_from_float"
  | .numberType => "int_type"
  | .notFinite => "finite_number"
  | .textType => "string_type"
  | .textsType => "list_type"
  | .mappingType => "dict_type"
  | .jsonText => "json_invalid"
  | .jsonValue => "invalid-json-value"

/-- What is wrong with a text that is not read as a number. -/
def FaultKind.ofLiteral : Numeral.LiteralError → FaultKind
  | .malformed => .numberText
  | .tooLong => .numberSize

/-- A fault and its place, the outermost step first. -/
structure Fault where
  kind : FaultKind
  place : List Place := []
deriving DecidableEq, Repr

/-- A fault one step further inside. -/
def Fault.under (place : Place) (fault : Fault) : Fault :=
  { fault with place := place :: fault.place }

/-- A decoded value, or all faults of it. -/
abbrev Decoded (α : Type) := Except (List Fault) α

namespace Decoding

def fail {α : Type} (kind : FaultKind) : Decoded α :=
  .error [{ kind }]

/-- Move the faults of a result one step further inside. -/
def under {α : Type} (place : Place) (result : Decoded α) : Decoded α :=
  result.mapError (·.map (Fault.under place))

/-- Both results, or the faults of both. -/
def both {α β γ : Type} (combine : α → β → γ) : Decoded α → Decoded β → Decoded γ
  | .ok a, .ok b => .ok (combine a b)
  | .error first, .error second => .error (first ++ second)
  | .error faults, .ok _ => .error faults
  | .ok _, .error faults => .error faults

def trueWords : List String := ["1", "on", "t", "true", "y", "yes"]

def falseWords : List String := ["0", "f", "false", "n", "no", "off"]

/-- A word for a flag, in any case. -/
def readFlag (text : String) : Decoded Bool :=
  let word := String.ofList (text.toList.map Char.toLower)
  if trueWords.contains word then .ok true
  else if falseWords.contains word then .ok false
  else fail .flagText

/-- A number that stands for a flag. -/
def flagOfInt (n : Int) : Decoded Bool :=
  if n = 0 then .ok false else if n = 1 then .ok true else fail .flagText

/-- The first positive integer that is beyond a machine word with a sign, two to
the power of 63. -/
def wordBound : Int := 9223372036854775808

/-- The integers of a machine word. -/
def isMachineInt (n : Int) : Bool := -wordBound ≤ n && n < wordBound

/-- The integer that a number without fractional part is. -/
def intOfFloat (x : Binary64) : Decoded Int :=
  match x.truncate? with
  | none => fail .notFinite
  | some n =>
      if !x.isIntegral then fail .numberFraction
      else if n.natAbs < wordBound then .ok n
      else fail .numberSize

def flag : Datum → Decoded Bool
  | .bool value => .ok value
  | .string text => readFlag text
  | .integer n => if isMachineInt n then flagOfInt n else fail .flagType
  | .float x =>
      match intOfFloat x with
      | .ok n => flagOfInt n
      | .error _ => fail .flagType
  | _ => fail .flagType

def readNumber (text : String) : Decoded Int :=
  (Numeral.readLenient text.toList).mapError fun cause => [{ kind := .ofLiteral cause }]

def number : Datum → Decoded Int
  | .integer n => .ok n
  | .bool value => .ok (if value then 1 else 0)
  | .string text => readNumber text
  | .float x => intOfFloat x
  | _ => fail .numberType

def text : Datum → Decoded String
  | .string value => .ok value
  | _ => fail .textType

/-- Texts, the first of them at an index. -/
def textsFrom (index : Nat) : List Datum → Decoded (List String)
  | [] => .ok []
  | item :: rest =>
      both List.cons (under (.index index) (text item)) (textsFrom (index + 1) rest)

def texts : Datum → Decoded (List String)
  | .array items => textsFrom 0 items
  | .set items => textsFrom 0 items
  | _ => fail .textsType

mutual

/-- A JSON value.  Places inside an array or a table name that first. -/
def json : Datum → Decoded Json
  | .null => .ok .null
  | .bool value => .ok (.bool value)
  | .integer value => .ok (.integer value)
  | .float value => .ok (.float value)
  | .string value => .ok (.string value)
  | .array items => (under (.name "list") (jsonItems 0 items)).map .array
  | .table entries => (under (.name "dict") (jsonMembers entries)).map .object
  | .moment _ => fail .jsonValue
  | .set _ => fail .jsonValue

/-- JSON values, the first of them at an index. -/
def jsonItems (index : Nat) : List Datum → Decoded (List Json)
  | [] => .ok []
  | item :: rest => both List.cons (under (.index index) (json item)) (jsonItems (index + 1) rest)

def jsonMembers : List (String × Datum) → Decoded (List (String × Json))
  | [] => .ok []
  | (name, value) :: rest =>
      both (fun value rest => (name, value) :: rest) (under (.name name) (json value))
        (jsonMembers rest)

end

def mapping : Datum → Decoded Json.Members
  | .table entries => jsonMembers entries
  | _ => fail .mappingType

def value : (kind : Kind) → Datum → Decoded kind.Carrier
  | .flag => flag
  | .number => number
  | .text => text
  | .texts => texts
  | .mapping => mapping

/-- The name under which a source holds a setting, and the value it has there.
The key wins over the name. -/
def entry? (entries : Entries Datum) (field : Field) : Option (String × Datum) :=
  match entries.lookup field.key with
  | some value => some (field.key, value)
  | none => (entries.lookup field.name).map fun value => (field.name, value)

/-- Decode the settings of a list of fields into given settings. -/
def settingsOf (entries : Entries Datum) (initial : Settings) : List Field → Decoded Settings
  | [] => .ok initial
  | field :: rest =>
      match entry? entries field with
      | none => settingsOf entries initial rest
      | some (name, datum) =>
          match under (.name name) (value field.kind datum) with
          | .ok value => settingsOf entries (initial.put field value) rest
          | .error faults =>
              match settingsOf entries initial rest with
              | .ok _ => .error faults
              | .error later => .error (faults ++ later)

/-- Decode settings.  Settings that a source does not hold have their
defaults. -/
def settings (entries : Entries Datum) : Decoded Settings :=
  settingsOf entries Settings.defaults Field.all

/-- Why the text of a variable is no value of a setting. -/
inductive TextError where
  | notAnInteger (text : String)
  | faults (faults : List Fault)
deriving DecidableEq, Repr

/-- An integer literal to base ten: an optional sign and ASCII digits. -/
def isIntegerLiteral (text : List Char) : Bool :=
  let (_, digits) := Numeral.cutSign text
  !digits.isEmpty && digits.all Char.isDigit

/-- The message for a text that is no integer literal. -/
def notAnIntegerMessage (text : String) : String :=
  Text.quoted text ++ " is not a base-10 integer"

/-- Read a JSON value and decode it. -/
def jsonText {α : Type} (decode : Datum → Decoded α) (text : String) : Decoded α :=
  match Json.read? text with
  | some json => decode (Datum.ofJson json)
  | none => fail .jsonText

/-- The value of a setting that the text of a variable denotes. -/
def ofText : (kind : Kind) → String → Except TextError kind.Carrier
  | .flag, raw => (readFlag (String.ofList (Text.trim raw.toList))).mapError .faults
  | .number, raw =>
      if isIntegerLiteral raw.toList then (readNumber raw).mapError .faults
      else .error (.notAnInteger raw)
  | .text, raw => .ok raw
  | .texts, raw => (jsonText texts raw).mapError .faults
  | .mapping, raw => (jsonText mapping raw).mapError .faults

end Decoding

end ServerConfig
