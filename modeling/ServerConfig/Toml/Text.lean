import ServerConfig.Toml.Scalar

/-!
# Texts and keys of TOML documents

A text is basic, with escapes, or literal, without; either may extend over
several lines.  A key is a sequence of parts separated by dots.
-/

namespace ServerConfig.Toml

/-- Space inside a line. -/
def isSpace (c : Char) : Bool := c = ' ' || c = '\t'

/-- Space between values, line breaks included. -/
def isSpaceOrBreak (c : Char) : Bool := isSpace c || c = '\n'

/-- Control characters that neither comments nor texts may hold. -/
def isControl (c : Char) : Bool := c.toNat = 0x7F || (c.toNat < 0x20 && c != '\t')

/-- Characters that a text may not hold. -/
def isForbidden (multiline : Bool) (c : Char) : Bool :=
  isControl c && !(multiline && c = '\n')

/-- Make the result of an optional reading a result of its own. -/
def required {α : Type} : Option (α × List Char) → Result (α × List Char)
  | some reading => .ok reading
  | none => .error .malformed

/-- The character whose code point is written by a number of hexadecimal
digits. -/
def readCodePoint? (width : Nat) (text : List Char) : Option (Char × List Char) := do
  let digits := text.take width
  let values ← digits.mapM Text.hexValue?
  let code := Text.ofHex values
  if digits.length = width && code.isValidChar then
    return (Char.ofNat code, text.drop width)
  else none

/-- What follows the reverse solidus of an escape: the characters it stands for,
which are none where it joins lines. -/
def readEscape? (multiline : Bool) : List Char → Option (List Char × List Char)
  | [] => none
  | c :: rest =>
      if multiline && c = '\n' then some ([], rest.dropWhile isSpaceOrBreak)
      else if multiline && isSpace c then
        match rest.dropWhile isSpace with
        | [] => some ([], [])
        | d :: rest => if d = '\n' then some ([], rest.dropWhile isSpaceOrBreak) else none
      else
        match c with
        | 'b' => some (['\x08'], rest)
        | 't' => some (['\t'], rest)
        | 'n' => some (['\n'], rest)
        | 'f' => some (['\x0c'], rest)
        | 'r' => some (['\r'], rest)
        | '"' => some (['"'], rest)
        | '\\' => some (['\\'], rest)
        | 'u' => (readCodePoint? 4 rest).map fun (char, rest) => ([char], rest)
        | 'U' => (readCodePoint? 8 rest).map fun (char, rest) => ([char], rest)
        | _ => none

/-- A basic text up to its closing marks. -/
def readBasic? (multiline : Bool) : Nat → List Char → Option (List Char × List Char)
  | 0, _ => none
  | _ + 1, [] => none
  | fuel + 1, c :: rest =>
      let onward (chars : List Char) (rest : List Char) :=
        (readBasic? multiline fuel rest).map fun (later, rest) => (chars ++ later, rest)
      if c = '"' then
        if !multiline then some ([], rest)
        else
          match rest with
          | '"' :: '"' :: after => some ([], after)
          | _ => onward ['"'] rest
      else if c = '\\' then
        match readEscape? multiline rest with
        | some (chars, rest) => onward chars rest
        | none => none
      else if isForbidden multiline c then none
      else onward [c] rest

/-- A literal text up to its closing marks. -/
def readLiteral? (multiline : Bool) : List Char → Option (List Char × List Char)
  | [] => none
  | c :: rest =>
      let onward := (readLiteral? multiline rest).map fun (later, rest) => (c :: later, rest)
      if c = '\x27' then
        if !multiline then some ([], rest)
        else
          match rest with
          | '\x27' :: '\x27' :: after => some ([], after)
          | _ => onward
      else if isForbidden multiline c then none
      else onward

/-- A line break right after the opening marks is no part of a text. -/
def dropFirstBreak : List Char → List Char
  | '\n' :: rest => rest
  | text => text

/-- Up to two marks before the three closing ones belong to the text. -/
def withFinalMarks (mark : Char) (chars : List Char) (rest : List Char) : List Char × List Char :=
  let extra := (rest.take 2).takeWhile (· == mark)
  (chars ++ extra, rest.drop extra.length)

/-- A text that opens with one mark. -/
def readLine? (mark : Char) (text : List Char) : Option (List Char × List Char) :=
  if mark = '"' then readBasic? false (text.length + 1) text else readLiteral? false text

/-- A text that opens with three marks. -/
def readLines? (mark : Char) (text : List Char) : Option (List Char × List Char) :=
  let body := dropFirstBreak text
  let found :=
    if mark = '"' then readBasic? true (body.length + 1) body else readLiteral? true body
  found.map fun (chars, rest) => withFinalMarks mark chars rest

/-- A text whose first mark has been passed. -/
def readText? (mark : Char) (text : List Char) : Option (List Char × List Char) :=
  match text with
  | a :: b :: rest => if a = mark && b = mark then readLines? mark rest else readLine? mark text
  | _ => readLine? mark text

def isBareKeyChar (c : Char) : Bool := c.isAlphanum || c = '-' || c = '_'

/-- Whether a character can start a key. -/
def startsKey (c : Char) : Bool := isBareKeyChar c || c = '"' || c = '\x27'

/-- One part of a key. -/
def readKeyPart? : List Char → Option (String × List Char)
  | [] => none
  | c :: rest =>
      if isBareKeyChar c then
        some (String.ofList (c :: rest.takeWhile isBareKeyChar), rest.dropWhile isBareKeyChar)
      else if c = '"' || c = '\x27' then
        (readLine? c rest).map fun (chars, rest) => (String.ofList chars, rest)
      else none

/-- A key, and the rest after the space that follows it. -/
def readKey? : Nat → List Char → Option (List String × List Char)
  | 0, _ => none
  | fuel + 1, text => do
      let (part, rest) ← readKeyPart? text
      match rest.dropWhile isSpace with
      | '.' :: rest =>
          let (parts, rest) ← readKey? fuel (rest.dropWhile isSpace)
          return (part :: parts, rest)
      | rest => return ([part], rest)

def readKey (text : List Char) : Result (List String × List Char) :=
  required (readKey? (text.length + 1) text)

end ServerConfig.Toml
