import DiffSieve.Number.Percent

/-!
# Estimated savings

How many tokens of a language model a text costs, and what a shorter text saves.  Without an
encoding at hand, or if it fails on the text, four characters are taken for one token.
-/

namespace DiffSieve

/-- An encoding, as far as it matters here: the number of tokens of a text, unless it fails. -/
abbrev Encoding := Text → Option Nat

namespace Encoding

/-- The names of the encodings in the order in which they are tried. -/
def names : List Text :=
  ["cl100k_base", "p50k_base"].map String.toList

/-- The first encoding that is at hand. -/
def choose (load : Text → Option Encoding) : Option Encoding :=
  names.findSome? load

/-- The number of characters that are taken for one token. -/
def charactersPerToken : Nat := 4

/-- The estimated number of tokens of a text.  An empty text has none. -/
def estimate (encoding : Option Encoding) (text : Text) : Nat :=
  if text.isEmpty then 0
  else (encoding.bind fun count => count text).getD (text.length / charactersPerToken)

end Encoding

/-- The estimated numbers of tokens before and after. -/
structure Savings where
  before : Nat
  after : Nat
  deriving DecidableEq

namespace Savings

/-- The savings of one text over another. -/
def ofTexts (encoding : Option Encoding) (before after : Text) : Savings :=
  ⟨Encoding.estimate encoding before, Encoding.estimate encoding after⟩

/-- How many tokens are saved; negative if the second text costs more. -/
def saved (savings : Savings) : Int :=
  savings.before - savings.after

/-- The share of the tokens that is saved. -/
def share (savings : Savings) : Number.Share :=
  ⟨savings.saved, savings.before⟩

end Savings
end DiffSieve
