import DiffSieve.Number.Decimal
import DiffSieve.Text.Printable

/-!
# Quoted texts

How a text is shown inside a message: between apostrophes, or between quotation marks if it
holds an apostrophe and no quotation mark.  Inside, a backslash goes before the delimiter and
before a backslash, the three usual control characters have their letters, and every other
character without a shape of its own is written by its code point.
-/

namespace DiffSieve.Text

/-- The delimiter for a text. -/
def delimiter (text : Text) : Char :=
  if text.contains '\x27' && !text.contains '\x22' then '\x22' else '\x27'

/-- A character by its code point, in the shortest of the three forms that has room for it. -/
def escaped (c : Char) : Text :=
  let n := c.toNat
  if n < 0x100 then '\\' :: 'x' :: Number.hexadecimal 2 n
  else if n < 0x10000 then '\\' :: 'u' :: Number.hexadecimal 4 n
  else '\\' :: 'U' :: Number.hexadecimal 8 n

/-- A character as it stands between the delimiters. -/
def shown (delimiter c : Char) : Text :=
  if c = delimiter || c = '\\' then ['\\', c]
  else if c = '\n' then ['\\', 'n']
  else if c = '\r' then ['\\', 'r']
  else if c = '\t' then ['\\', 't']
  else if isPrintable c then [c]
  else escaped c

/-- A text as messages show it. -/
def quoted (text : Text) : Text :=
  let mark := delimiter text
  mark :: text.flatMap (shown mark) ++ [mark]

end DiffSieve.Text
