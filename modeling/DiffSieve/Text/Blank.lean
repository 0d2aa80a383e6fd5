import DiffSieve.Text.Ranges

/-!
# Blank characters

The characters that count as white space everywhere in this library: the ASCII control
characters that move the carriage, the four information separators, and the spaces and line
separators of Unicode.  The zero width space, the Mongolian vowel separator and the byte order
mark are not among them.
-/

namespace DiffSieve.Text

/-- The ranges of blank characters. -/
def blankRanges : Ranges :=
  [(0x09, 0x0D), (0x1C, 0x20), (0x85, 0x85), (0xA0, 0xA0), (0x1680, 0x1680), (0x2000, 0x200A),
   (0x2028, 0x2029), (0x202F, 0x202F), (0x205F, 0x205F), (0x3000, 0x3000)]

/-- Whether a character is white space. -/
def isBlank (c : Char) : Bool :=
  blankRanges.covers c

/-- A text without the white space at its two ends. -/
def trim (text : Text) : Text :=
  dropEndWhile isBlank (text.dropWhile isBlank)

/-- Whether a text is not empty and holds nothing but white space. -/
def isBlankRun (text : Text) : Bool :=
  !text.isEmpty && text.all isBlank

/-- The words of a text: its longest pieces free of white space. -/
def words (text : Text) : List Text :=
  (text.splitOnP isBlank).filter (!·.isEmpty)

end DiffSieve.Text
