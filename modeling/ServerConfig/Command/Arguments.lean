import ServerConfig.Text.Digit
import ServerConfig.Text.Split

/-!
# Arguments of the command

Long options may be shortened as long as one option alone begins that way, and
a value may follow an option after an equals sign.  The command takes no other
arguments than options.
-/

namespace ServerConfig.Command

inductive Flag where
  | help
  | config
  | noEnvironment
  | publicView
deriving DecidableEq, Repr

def Flag.all : List Flag := [.help, .config, .noEnvironment, .publicView]

def Flag.longName : Flag → String
  | .help => "--help"
  | .config => "--config"
  | .noEnvironment => "--no-env"
  | .publicView => "--public"

structure Choices where
  /-- The path of the configuration, if one is given. -/
  config : Option String := none
  noEnvironment : Bool := false
  publicView : Bool := false
deriving DecidableEq, Repr

/-- Why the command ends without doing anything. -/
inductive Usage where
  /-- Help is asked for. -/
  | help
  /-- The arguments are wrong. -/
  | wrong
deriving DecidableEq, Repr

/-- The exit status after help or wrong arguments. -/
def Usage.exitStatus : Usage → Nat
  | .help => 0
  | .wrong => 2

/-- What an argument is taken for. -/
inductive Word where
  /-- An option, with the value after an equals sign. -/
  | option (flag : Flag) (value : Option String)
  /-- Short options run together; the text is what follows the first of them. -/
  | shortHelp (more : String)
  /-- An option that does not exist. -/
  | unknown
  /-- A value, or an argument that is no option. -/
  | plain (text : String)
  /-- The mark after which nothing is an option. -/
  | endOfOptions
deriving DecidableEq, Repr

/-- Digits to the end of a text, which may have a line break after them. -/
def endsInDigits (text : List Char) : Bool :=
  let digits := text.takeWhile Text.isDecimal
  let rest := text.dropWhile Text.isDecimal
  !digits.isEmpty && (rest.isEmpty || rest == ['\n'])

/-- Whether a text looks like a negative number. -/
def isNegativeNumber : List Char → Bool
  | '-' :: body =>
      endsInDigits body ||
        match body.dropWhile Text.isDecimal with
        | '.' :: fraction => endsInDigits fraction
        | _ => false
  | _ => false

/-- Cut a text at the first equals sign. -/
def cutValue (text : String) : String × Option String :=
  let (name, value) := Text.cutFirst '=' text.toList
  (String.ofList name, value.map String.ofList)

/-- What an argument that names no option is taken for. -/
def otherWord (text : String) : Word :=
  if isNegativeNumber text.toList || text.toList.contains ' ' then .plain text else .unknown

/-- What an argument is taken for, unless it is ambiguous. -/
def Word.ofText (text : String) : Except Usage Word :=
  match text.toList with
  | '-' :: '-' :: _ =>
      if text = "--" then .ok .endOfOptions
      else
        let (name, value) := cutValue text
        match Flag.all.find? (·.longName == text) with
        | some flag => .ok (.option flag none)
        | none =>
            match Flag.all.find? (·.longName == name) with
            | some flag => .ok (.option flag value)
            | none =>
                match Flag.all.filter fun flag => name.toList.isPrefixOf flag.longName.toList with
                | [flag] => .ok (.option flag value)
                | [] => .ok (otherWord text)
                | _ => .error .wrong
  | ['-'] => .ok (.plain text)
  | '-' :: 'h' :: more => .ok (.shortHelp (String.ofList more))
  | '-' :: _ => .ok (otherWord text)
  | _ => .ok (.plain text)

/-- The words of arguments; after the mark for it nothing is an option. -/
def wordsOf : List String → Except Usage (List Word)
  | [] => .ok []
  | text :: rest => do
      let word ← Word.ofText text
      if word = .endOfOptions then return word :: rest.map .plain
      let later ← wordsOf rest
      return word :: later

/-- Whether short options that run together with the one for help lead to help.
Repetitions of that option are skipped; an option that does not exist is left
for later, but neither a hyphen nor a value can follow. -/
def asksForHelp (more : String) : Bool :=
  match more.toList.dropWhile (· == 'h') with
  | [] => true
  | c :: _ => c != '-' && c != '='

/-- Follow words in order.  `stray` tells whether there was a word that is no
option of the command, which is an error only in the end. -/
def follow (choices : Choices) (stray : Bool) : List Word → Except Usage Choices
  | [] => if stray then .error .wrong else .ok choices
  | .option .config (some path) :: rest =>
      follow { choices with config := some path } stray rest
  | .option .config none :: .plain path :: rest =>
      follow { choices with config := some path } stray rest
  | .option .config none :: _ => .error .wrong
  | .option _ (some _) :: _ => .error .wrong
  | .option .help none :: _ => .error .help
  | .option .noEnvironment none :: rest => follow { choices with noEnvironment := true } stray rest
  | .option .publicView none :: rest => follow { choices with publicView := true } stray rest
  | .shortHelp more :: _ => .error (if asksForHelp more then .help else .wrong)
  | _ :: rest => follow choices true rest

def Choices.ofArguments (arguments : List String) : Except Usage Choices := do
  let words ← wordsOf arguments
  follow {} false words

end ServerConfig.Command
