import DiffSieve.Dialect
import DiffSieve.Token

/-!
# Lines that differ in formatting only

Five questions about an old and a new line.  The first two compare tokens, and fall back to a
coarser comparison when one of the lines opens a literal or a comment that it does not close.
The others compare the characters, and none of them holds of equal lines.
-/

namespace DiffSieve.Likeness

/-- Whether two lines have the same significant tokens and are not the same; `fallback` answers
for lines that do not split into tokens. -/
def sameTokens (fallback : Bool) (old new : Text) : Bool :=
  match Token.significantTokens old, Token.significantTokens new with
  | .ok oldTokens, .ok newTokens => oldTokens == newTokens && old != new
  | _, _ => fallback

/-- Whether two lines differ in white space only.  Failing tokens, they must have the same words,
and at least one. -/
def onlySpace (old new : Text) : Bool :=
  sameTokens (!(Text.words old).isEmpty && Text.words old == Text.words new) old new

/-- Whether two lines differ in comments only.  Failing tokens, both must be comment lines. -/
def onlyComments (old new : Text) : Bool :=
  sameTokens
    (Dialect.isCommentLine old && Dialect.isCommentLine new && Text.trim old != Text.trim new)
    old new

/-- Whether some line of a text opens an interpolation and holds a closing brace after it. -/
def holdsInterpolation (text : Text) : Bool :=
  (text.splitOn '\n').any fun line =>
    match Text.cut ['$', '{'] line with
    | some (_, after) => after.contains '}'
    | none => false

/-- A character with the three kinds of quotes made equal. -/
def unifyQuote (c : Char) : Char :=
  if Token.isStringQuote c || c = Token.backtick then '\x22' else c

/-- Whether two lines differ in their quotes only.  An interpolation gives the quotes around it a
meaning. -/
def onlyQuotes (old new : Text) : Bool :=
  !holdsInterpolation old && !holdsInterpolation new &&
    (old.map unifyQuote == new.map unifyQuote && old != new)

/-- Whether a trimmed line may stem from JSON, where a comma at the end is no matter of style. -/
def looksLikeJson (line : Text) : Bool :=
  Text.opensWithAny [['\x27'], ['\x22']] line || Text.holds ['\x22', ':'] line

/-- Whether two trimmed lines are the same once a final `c` is dropped from each, and are not the
same before. -/
def onlyFinal (c : Char) (old new : Text) : Bool :=
  Text.dropFinal c old == Text.dropFinal c new && old != new

/-- Whether two lines differ in a comma at the end only. -/
def onlyTrailingComma (old new : Text) : Bool :=
  let old := Text.trim old
  let new := Text.trim new
  !(looksLikeJson old || looksLikeJson new) && onlyFinal ',' old new

/-- Whether a line may go on with the statement before it, if no semicolon ends that. -/
def mayContinue (line : Text) : Bool :=
  Text.opensWithAny [['['], ['('], ['+'], ['-'], ['/'], [Token.backtick]] (Text.trim line)

/-- Whether two lines differ in a semicolon at the end only, and the line that follows does not
make it matter. -/
def onlySemicolon (old new : Text) (next : Option Text) : Bool :=
  onlyFinal ';' (Text.trim old) (Text.trim new) && !next.any mayContinue

end DiffSieve.Likeness
