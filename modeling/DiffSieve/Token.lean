import DiffSieve.Number.Decimal
import DiffSieve.Text.Blank

/-!
# Tokens of source text

A rough lexical grammar that many curly-brace languages share: runs of white space, string and
template literals, line and block comments, identifiers, numbers, and single characters for
everything else.  `tokensFrom` splits a text at the reach of each token, so the tokens of a text
are consecutive pieces of it; only a literal or a block comment that never closes stops it.
-/

namespace DiffSieve

/-- A token is the piece of text it covers. -/
abbrev Token := Text

/-- The kinds of tokens that need a closing mark. -/
inductive Enclosure where
  | string
  | template
  | blockComment
  deriving DecidableEq

/-- The name of such a token in messages. -/
def Enclosure.name : Enclosure → Text
  | string => "string".toList
  | template => "template literal".toList
  | blockComment => "block comment".toList

/-- A token that never closes, and the offset of its first character. -/
structure Unterminated where
  kind : Enclosure
  position : Nat
  deriving DecidableEq

/-- The message for a token that never closes. -/
def Unterminated.message (u : Unterminated) : Text :=
  "unterminated ".toList ++ u.kind.name ++ " starting at offset ".toList ++
    Number.ofNat u.position

namespace Token

/-! ## Classes of characters -/

/-- A carriage return or a line feed. -/
def isLineEnd (c : Char) : Bool :=
  c = '\r' || c = '\n'

/-- The characters that an identifier may open with. -/
def isIdentifierStart (c : Char) : Bool :=
  c.isAlpha || c = '_' || c = '$'

/-- The characters that an identifier may go on with. -/
def isIdentifierPart (c : Char) : Bool :=
  isIdentifierStart c || c.isDigit

/-- The characters that a number may go on with. -/
def isNumberPart (c : Char) : Bool :=
  c.isDigit || c = '.' || c = '_'

/-- The delimiter of template literals. -/
def backtick : Char := '\x60'

/-- The delimiters of string literals. -/
def isStringQuote (c : Char) : Bool :=
  c = '\x27' || c = '\x22'

/-! ## The reach of a token -/

/-- The length of the rest of a literal through the first closing `quote` that no backslash
escapes; none if there is none, or if a line end comes first and the literal may not span lines.
`escaped` tells whether the character before was an escaping backslash. -/
def closingQuote (quote : Char) (spansLines : Bool) : (escaped : Bool) → Text → Option Nat
  | _, [] => none
  | escaped, c :: rest =>
    if !spansLines && isLineEnd c then none
    else if escaped then (closingQuote quote spansLines false rest).map (· + 1)
    else if c = '\\' then (closingQuote quote spansLines true rest).map (· + 1)
    else if c = quote then some 1
    else (closingQuote quote spansLines false rest).map (· + 1)

/-- The length of the rest of a block comment through its end. -/
def closingComment : Text → Option Nat
  | [] => none
  | c :: rest =>
    if ['*', '/'].isPrefixOf (c :: rest) then some 2 else (closingComment rest).map (· + 1)

/-- Either the length found or the fault of a token that never closes. -/
def orUnclosed (kind : Enclosure) : Option Nat → Except Enclosure Nat
  | some n => .ok n
  | none => .error kind

/-- How many characters of `rest` belong to the token that opens with `c`. -/
def reach (c : Char) (rest : Text) : Except Enclosure Nat :=
  if Text.isBlank c then .ok (rest.takeWhile Text.isBlank).length
  else if c = backtick then orUnclosed .template (closingQuote c true false rest)
  else if isStringQuote c then orUnclosed .string (closingQuote c false false rest)
  else if c = '/' && rest.head? = some '/' then .ok (rest.takeWhile (!isLineEnd ·)).length
  else if c = '/' && rest.head? = some '*' then
    (orUnclosed .blockComment (closingComment rest.tail)).map (· + 1)
  else if isIdentifierStart c then .ok (rest.takeWhile isIdentifierPart).length
  else if c.isDigit then .ok (rest.takeWhile isNumberPart).length
  else .ok 0

/-! ## Splitting a text -/

/-- The tokens of a text that starts at the given offset, with or without its white space. -/
def tokensFrom (keepBlank : Bool) (offset : Nat) : Text → Except Unterminated (List Token)
  | [] => .ok []
  | c :: rest =>
    match reach c rest with
    | .error kind => .error ⟨kind, offset⟩
    | .ok n => do
      let later ← tokensFrom keepBlank (offset + n + 1) (rest.drop n)
      return if !keepBlank && Text.isBlank c then later else (c :: rest.take n) :: later
termination_by text => text.length
decreasing_by simp only [List.length_cons, List.length_drop]; omega

/-- The tokens of a text, without its white space. -/
def tokens (text : Text) : Except Unterminated (List Token) :=
  tokensFrom false 0 text

/-- The tokens of a text, runs of white space among them. -/
def tokensWithBlanks (text : Text) : Except Unterminated (List Token) :=
  tokensFrom true 0 text

/-! ## Classes of tokens -/

/-- Whether a token is a comment. -/
def isComment (token : Token) : Bool :=
  Text.opensWithAny ["//".toList, "/*".toList] token

/-- Whether a token means anything: it is neither white space nor a comment. -/
def isSignificant (token : Token) : Bool :=
  !Text.isBlankRun token && !isComment token

/-- Whether a token is a closing bracket. -/
def isClosingBracket (token : Token) : Bool :=
  [[')'], [']'], ['}']].contains token

/-- The tokens without the commas that stand right before a closing bracket, as they may appear
when a list is wrapped over several lines. -/
def dropWrapCommas : List Token → List Token
  | [] => []
  | [token] => [token]
  | token :: next :: rest =>
    if token = [','] && isClosingBracket next then dropWrapCommas (next :: rest)
    else token :: dropWrapCommas (next :: rest)

/-- The significant tokens of a text. -/
def significantTokens (text : Text) : Except Unterminated (List Token) :=
  (tokensWithBlanks text).map (·.filter isSignificant)

end Token
end DiffSieve
