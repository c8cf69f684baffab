import ServerConfig.Assembly
import ServerConfig.Packaged
import ServerConfig.Toml.Document

/-!
# Sources of configurations

A source is the packaged configuration or a file.  Files are looked up in a
working directory of which only one file is known: its other names are missing,
and so is everything in other directories.
-/

namespace ServerConfig

structure FilePath where
  /-- One or two solidi at the start of an absolute path. -/
  root : String := ""
  parts : List String := []
deriving DecidableEq, Repr

namespace FilePath

/-- The root that a path starts with: exactly two solidi are a root of their
own. -/
def rootOf : List Char → String
  | '/' :: '/' :: '/' :: _ => "/"
  | '/' :: '/' :: _ => "//"
  | '/' :: _ => "/"
  | _ => ""

/-- The path that a text denotes: empty parts and parts that stay in place are
left out. -/
def ofText (text : String) : FilePath where
  root := rootOf text.toList
  parts := ((Text.pieces '/' text.toList).map String.ofList).filter fun part =>
    part != "" && part != "."

def toText (path : FilePath) : String :=
  if path.root.isEmpty && path.parts.isEmpty then "."
  else path.root ++ "/".intercalate path.parts

end FilePath

/-- A working directory of which at most one file is known. -/
structure Directory where
  file : Option (String × ByteArray) := none

namespace Directory

/-- Where a path has led to. -/
inductive Position where
  /-- The working directory, or the directory so many levels above it. -/
  | above (levels : Nat)
  | root
  | file (contents : ByteArray)

/-- The longest name of a file in bytes. -/
def maxNameSize : Nat := 255

/-- The size in bytes from which a path is too long. -/
def maxPathSize : Nat := 4096

/-- Follow one part of a path. -/
def follow (directory : Directory) (position : Position) (part : String) :
    Except Unavailable Position :=
  match position with
  | .file _ => .error .notADirectory
  | .root =>
      if part = ".." then .ok .root
      else if maxNameSize < part.utf8ByteSize then .error .nameTooLong
      else .error .missing
  | .above levels =>
      if part = ".." then .ok (.above (levels + 1))
      else if maxNameSize < part.utf8ByteSize then .error .nameTooLong
      else
        match levels, directory.file with
        | 0, some (name, contents) => if part = name then .ok (.file contents) else .error .missing
        | _, _ => .error .missing

/-- The contents of the file at a path. -/
def read (directory : Directory) (path : FilePath) : Except Unavailable ByteArray := do
  if maxPathSize ≤ path.toText.utf8ByteSize then throw .nameTooLong
  let start : Position := if path.root.isEmpty then .above 0 else .root
  match ← path.parts.foldlM directory.follow start with
  | .file contents => return contents
  | _ => throw .isDirectory

end Directory

/-- A source of configurations. -/
inductive Source where
  | packaged
  | file (path : FilePath)
deriving DecidableEq, Repr

namespace Source

/-- The file at the path that a text denotes. -/
def ofText (text : String) : Source := .file (.ofText text)

def name : Source → String
  | .packaged => Packaged.name
  | .file path => path.toText

def entriesOfText (source : String) (text : String) : Except AssemblyError (Entries Datum) :=
  match Toml.read text with
  | .ok entries => .ok entries
  | .error .malformed => .error (.undecodable source .grammar)
  | .error (.numeral cause) => .error (.numeral cause)

/-- The entries of a document in UTF-8. -/
def entriesOfBytes (source : String) (contents : ByteArray) :
    Except AssemblyError (Entries Datum) :=
  match String.fromUTF8? contents with
  | some text => entriesOfText source text
  | none => .error (.undecodable source .encoding)

/-- The entries of a source, where `read` gives the contents of files. -/
def entries (read : FilePath → Except Unavailable ByteArray) :
    Source → Except AssemblyError (Entries Datum)
  | .packaged => entriesOfText Packaged.name Packaged.document
  | .file path =>
      if path.toText.toList.contains '\x00' then .error .nullInName
      else
        match read path with
        | .ok contents => entriesOfBytes path.toText contents
        | .error cause => .error (.unavailable path.toText cause)

end Source

namespace Configuration

/-- Load a configuration from a source and validate it. -/
def load (read : FilePath → Except Unavailable ByteArray) (source : Source) :
    List Log.Record × Except AssemblyError Configuration :=
  match source.entries read with
  | .error cause => ([], .error cause)
  | .ok entries => ofEntries source.name entries

end Configuration

end ServerConfig
