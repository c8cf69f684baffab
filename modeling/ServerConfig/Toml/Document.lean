import ServerConfig.Toml.Table
import ServerConfig.Toml.Text

/-!
# TOML documents

A document is a sequence of lines that each hold a header, an entry or nothing,
with an optional comment.
-/

namespace ServerConfig.Toml

/-- Drop a comment up to the line break after it. -/
def dropComment : List Char → Option (List Char)
  | '#' :: rest =>
      let comment := rest.takeWhile (· != '\n')
      if comment.any isControl then none else some (rest.dropWhile (· != '\n'))
  | text => some text

/-- How a value is read: it and the text after it, from the text where it
starts. -/
abbrev ValueReader := List Char → Result (Datum × List Char)

/-- Drop what may stand between the values of an array: space, line breaks and
comments. -/
def dropFiller : Nat → List Char → Option (List Char)
  | 0, _ => none
  | fuel + 1, text =>
      match text.dropWhile isSpaceOrBreak with
      | '#' :: rest => do
          let rest ← dropComment ('#' :: rest)
          dropFiller fuel rest
      | rest => some rest

/-- Drop what may stand between the values of an array. -/
def skipFiller (text : List Char) : Result (List Char) :=
  match dropFiller (text.length + 1) text with
  | some rest => .ok rest
  | none => .error .malformed

/-- The values of an array up to its closing bracket, where `text` starts at a
value. -/
def readItems (value : ValueReader) : Nat → List Char → Result (List Datum × List Char)
  | 0, _ => .error .malformed
  | fuel + 1, text => do
      let (first, rest) ← value text
      match ← skipFiller rest with
      | ']' :: rest => return ([first], rest)
      | ',' :: rest =>
          match ← skipFiller rest with
          | ']' :: rest => return ([first], rest)
          | rest =>
              let (later, rest) ← readItems value fuel rest
              return (first :: later, rest)
      | _ => throw .malformed

/-- An array whose opening bracket has been passed. -/
def readArray (value : ValueReader) (text : List Char) : Result (List Datum × List Char) := do
  match ← skipFiller text with
  | ']' :: rest => return ([], rest)
  | rest => readItems value (rest.length + 1) rest

/-- A key, an equals sign and a value. -/
def readPair (value : ValueReader) (text : List Char) :
    Result ((List String × Datum) × List Char) := do
  let (key, rest) ← readKey text
  match rest with
  | '=' :: rest =>
      let (datum, rest) ← value (rest.dropWhile isSpace)
      return ((key, datum), rest)
  | _ => throw .malformed

/-- The entries of a table in braces up to its closing brace, where `text`
starts at a key. -/
def readInlineEntries (value : ValueReader) :
    Nat → Nodes → List Char → Result (Nodes × List Char)
  | 0, _, _ => .error .malformed
  | fuel + 1, nodes, text => do
      let ((key, datum), rest) ← readPair value text
      match nodes.assign 0 datum key with
      | none => throw .malformed
      | some nodes =>
          match rest.dropWhile isSpace with
          | '\x7d' :: rest => return (nodes, rest)
          | ',' :: rest => readInlineEntries value fuel nodes (rest.dropWhile isSpace)
          | _ => throw .malformed

/-- A table in braces whose opening brace has been passed. -/
def readInline (value : ValueReader) (text : List Char) : Result (Datum × List Char) :=
  match text.dropWhile isSpace with
  | '\x7d' :: rest => .ok (.table [], rest)
  | rest => do
      let (nodes, rest) ← readInlineEntries value (rest.length + 1) [] rest
      return (.table (entriesToData nodes), rest)

/-- A value.  The fuel bounds the nesting. -/
def readValue : Nat → ValueReader
  | 0, _ => .error .malformed
  | _ + 1, [] => .error .malformed
  | fuel + 1, c :: rest =>
      if c = '"' || c = '\x27' then
        (required (readText? c rest)).map fun (chars, rest) => (.string (String.ofList chars), rest)
      else if "true".toList.isPrefixOf (c :: rest) then .ok (.bool true, rest.drop 3)
      else if "false".toList.isPrefixOf (c :: rest) then .ok (.bool false, rest.drop 4)
      else if c = '[' then
        (readArray (readValue fuel) rest).map fun (items, rest) => (.array items, rest)
      else if c = '\x7b' then readInline (readValue fuel) rest
      else readScalar (c :: rest)

/-- A document as far as it has been read. -/
structure Document where
  nodes : Nodes := []
  /-- The key of the last header. -/
  header : List String := []
  /-- The number of headers so far. -/
  headers : Nat := 0

/-- A header in single or double brackets, whose brackets have been passed. -/
def readHeader (isArray : Bool) (document : Document) (text : List Char) :
    Result (Document × List Char) := do
  let (key, rest) ← readKey (text.dropWhile isSpace)
  let change := if isArray then Nodes.appendAt key else Nodes.declareAt key
  match change document.nodes with
  | none => throw .malformed
  | some nodes =>
      let closing := if isArray then [']', ']'] else [']']
      if closing.isPrefixOf rest then
        return (⟨nodes, key, document.headers + 1⟩, rest.drop closing.length)
      else throw .malformed

/-- An entry below the last header. -/
def readEntry (document : Document) (text : List Char) : Result (Document × List Char) := do
  let ((key, datum), rest) ← readPair (readValue (text.length + 1)) text
  let change := Nodes.assign document.headers datum key
  match document.nodes.alterAt change document.header with
  | none => throw .malformed
  | some nodes => return ({ document with nodes }, rest)

/-- A header or an entry, if the line holds one. -/
def readStatement (document : Document) (text : List Char) : Result (Document × List Char) :=
  match text with
  | [] => .ok (document, [])
  | c :: rest =>
      if c = '\n' || c = '#' then .ok (document, text)
      else if startsKey c then readEntry document text
      else if c = '[' then
        match rest with
        | '[' :: rest => readHeader true document rest
        | _ => readHeader false document rest
      else .error .malformed

/-- The lines of a document.  The fuel bounds their number. -/
def readLinesFrom : Nat → Document → List Char → Result Document
  | 0, _, _ => .error .malformed
  | fuel + 1, document, text => do
      let (document, rest) ← readStatement document (text.dropWhile isSpace)
      match dropComment (rest.dropWhile isSpace) with
      | none => throw .malformed
      | some [] => return document
      | some (c :: rest) => if c = '\n' then readLinesFrom fuel document rest else throw .malformed

/-- Make every carriage return with a line feed a line feed. -/
def normaliseBreaks : List Char → List Char
  | '\r' :: '\n' :: rest => '\n' :: normaliseBreaks rest
  | c :: rest => c :: normaliseBreaks rest
  | [] => []

/-- The entries of the document that a text is. -/
def read (text : String) : Result (Entries Datum) := do
  let chars := normaliseBreaks text.toList
  let document ← readLinesFrom (chars.length + 1) {} chars
  return entriesToData document.nodes

end ServerConfig.Toml
