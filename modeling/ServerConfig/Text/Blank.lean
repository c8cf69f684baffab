import ServerConfig.Text.CodeRange

/-!
# Blank characters

Two sets of blanks are in use.  `isBlank` is the wider one, with the four
information separators; trimming uses it.  `isWhiteSpace` is the `White_Space`
property of Unicode.
-/

namespace ServerConfig.Text

/-- The characters with the Unicode property `White_Space`. -/
def whiteSpaceRanges : CodeRanges :=
  [(0x09, 0x0D), (0x20, 0x20), (0x85, 0x85), (0xA0, 0xA0), (0x1680, 0x1680),
   (0x2000, 0x200A), (0x2028, 0x2029), (0x202F, 0x202F), (0x205F, 0x205F),
   (0x3000, 0x3000)]

/-- A white space character in the sense of Unicode. -/
def isWhiteSpace (c : Char) : Bool :=
  whiteSpaceRanges.contains c

/-- A white space character or one of the information separators. -/
def isBlank (c : Char) : Bool :=
  isWhiteSpace c || (0x1C ≤ c.toNat && c.toNat ≤ 0x1F)

theorem isBlank_of_isWhiteSpace {c : Char} (white : isWhiteSpace c = true) :
    isBlank c = true := by
  simp [isBlank, white]

/-- Drop the longest run at the end whose characters all satisfy `drop`. -/
def dropEndWhile (drop : Char → Bool) (text : List Char) : List Char :=
  (text.reverse.dropWhile drop).reverse

/-- Drop the characters that satisfy `drop` from both ends. -/
def stripWhile (drop : Char → Bool) (text : List Char) : List Char :=
  dropEndWhile drop (text.dropWhile drop)

/-- Drop the blanks at both ends. -/
def trim (text : List Char) : List Char :=
  stripWhile isBlank text

/-- Drop the trailing solidi of a path or URL. -/
def dropTrailingSlashes (text : String) : String :=
  String.ofList (dropEndWhile (· == '/') text.toList)

end ServerConfig.Text
