import DiffSieve.Text.Basic

/-!
# Lines

Three readings of a text as lines.  `lines` takes a line feed, together with one carriage
return right before it, as the end of a line and drops it; every other character that some
program takes for a separator, a lone carriage return included, belongs to its line.
`linesWithEnds` ends a line at a line feed and keeps it.  In both the text after the last line
feed is a line only if it is not empty.  `unifyLineEnds` prepares a text for both: it makes one
line feed of each of the three line ends in use.
-/

namespace DiffSieve.Text

/-- Makes lines of the pieces between line feeds: `close` is applied to each piece that a line
feed ended, and the last piece, which none ended, counts only if it is not empty. -/
def linesOfPieces (close : Text → Text) : List Text → List Text
  | [] => []
  | [last] => if last.isEmpty then [] else [last]
  | piece :: more => close piece :: linesOfPieces close more

/-- The lines of a text, without their ends. -/
def lines (text : Text) : List Text :=
  linesOfPieces (dropFinal '\r') (text.splitOn '\n')

/-- The lines of a text, each with the line feed that ends it. -/
def linesWithEnds (text : Text) : List Text :=
  linesOfPieces (· ++ ['\n']) (text.splitOn '\n')

/-- The text without its first character, if that is a line feed. -/
def dropLineFeed : Text → Text
  | [] => []
  | c :: rest => if c = '\n' then rest else c :: rest

/-- A text in which each carriage return, together with a line feed right after it, became one
line feed. -/
def unifyLineEnds (text : Text) : Text :=
  match text.splitOn '\r' with
  | [] => []
  | first :: later => first ++ later.flatMap fun piece => '\n' :: dropLineFeed piece

end DiffSieve.Text
