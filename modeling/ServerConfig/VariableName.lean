import ServerConfig.Text.Blank
import ServerConfig.Text.Search

/-!
# Names of environment variables

An identifier such as `GoogleAPIClientID` is turned into upper-case words
joined by low lines, `GOOGLE_API_CLIENT_ID`.  Two replacements mark the borders
between words, a third one joins what separates them.
-/

namespace ServerConfig.VariableName

def isCapital (c : Char) : Bool := 'A' ≤ c && c ≤ 'Z'

def isSmall (c : Char) : Bool := 'a' ≤ c && c ≤ 'z'

/-- An ASCII letter or digit, which is what words consist of. -/
def isWordChar (c : Char) : Bool := isCapital c || isSmall c || c.isDigit

/-- Whether a text starts with a capitalised word. -/
def startsWord : List Char → Bool
  | a :: b :: _ => isCapital a && isSmall b
  | _ => false

/-- The greatest number of capitals at the start of a text behind which a
capitalised word starts. -/
def acronymLength? : List Char → Option Nat
  | [] => none
  | c :: rest =>
      if !isCapital c then none
      else
        match acronymLength? rest with
        | some count => some (count + 1)
        | none => if startsWord rest then some 1 else none

/-- An acronym and the start of the capitalised word behind it, to be set
apart. -/
def acronymEnd : Text.Pattern (List Char) := fun c rest =>
  (acronymLength? (c :: rest)).map fun count =>
    (count + 1, (c :: rest).take count ++ '_' :: ((c :: rest).drop count).take 2)

/-- A small letter or digit and the capital behind it, to be set apart. -/
def wordStart : Text.Pattern (List Char) := fun c rest =>
  match rest with
  | b :: _ => if (isSmall c || c.isDigit) && isCapital b then some (1, [c, '_', b]) else none
  | [] => none

/-- A run of characters that belong to no word, to become one low line. -/
def separators : Text.Pattern (List Char) := fun c rest =>
  if isWordChar c then none
  else some ((rest.takeWhile (!isWordChar ·)).length, ['_'])

/-- The upper-case words of an identifier, joined by low lines. -/
def screamingSnakeChars (identifier : List Char) : List Char :=
  let marked := Text.replaceAll wordStart (Text.replaceAll acronymEnd identifier)
  (Text.stripWhile (· == '_') (Text.replaceAll separators marked)).map Char.toUpper

/-- The upper-case words of an identifier, joined by low lines. -/
def screamingSnake (identifier : String) : String :=
  String.ofList (screamingSnakeChars identifier.toList)

/-- What the names of all variables of the server begin with. -/
def start : String := "PLIKD_"

/-- The variable that overrides a setting with the given identifier. -/
def ofIdentifier (identifier : String) : String :=
  start ++ screamingSnake identifier

end ServerConfig.VariableName
