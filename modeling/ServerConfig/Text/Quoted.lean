import ServerConfig.Text.Hexadecimal
import ServerConfig.Text.Printable

/-!
# Quoted text

Diagnostics show texts between quotation marks.  The mark is the apostrophe,
unless the text holds an apostrophe and no double quotation mark.  The mark and
the reverse solidus are escaped, and so is every character that cannot be
printed, by the shortest of `\xNN`, `\uNNNN` and `\UNNNNNNNN`.
-/

namespace ServerConfig.Text

/-- The numeric escape of a character. -/
def numericEscape (c : Char) : List Char :=
  if c.toNat < 0x100 then '\\' :: 'x' :: hexText 2 c.toNat
  else if c.toNat < 0x10000 then '\\' :: 'u' :: hexText 4 c.toNat
  else '\\' :: 'U' :: hexText 8 c.toNat

/-- How a character is shown between two quotation marks `mark`. -/
def quotedChar (mark c : Char) : List Char :=
  if c = mark || c = '\\' then ['\\', c]
  else if c = '\n' then ['\\', 'n']
  else if c = '\r' then ['\\', 'r']
  else if c = '\t' then ['\\', 't']
  else if isPrintable c then [c]
  else numericEscape c

/-- The mark that quotes a text with the fewest escapes. -/
def quoteMark (text : List Char) : Char :=
  if text.contains '\x27' && !text.contains '"' then '"' else '\x27'

/-- A text between quotation marks. -/
def quotedChars (text : List Char) : List Char :=
  let mark := quoteMark text
  mark :: text.flatMap (quotedChar mark) ++ [mark]

def quoted (text : String) : String :=
  String.ofList (quotedChars text.toList)

end ServerConfig.Text
