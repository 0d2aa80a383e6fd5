import DiffSieve.Text.Lines

/-!
# Rules for paths that pass through

Which paths some rules match is for the library to say that reads them.  A `RuleReader` is that
library as far as it matters here, and nothing is assumed of it; `gitignore` in
`DiffSieve.Ignore.Gitignore` is one.
-/

namespace DiffSieve

/-- Rules as they are read: how many patterns there are, and which paths they match. -/
structure Rules where
  size : Nat
  holds : Text → Bool

/-- What reads rules from lines; a text says why it refuses them. -/
abbrev RuleReader := List Text → Except Text Rules

namespace Rules

/-- Whether a path passes through.  Without a pattern none does. -/
def passes (rules : Rules) (path : Text) : Bool :=
  rules.size != 0 && rules.holds path

/-- The lines of an ignore file. -/
def fileLines (content : Text) : List Text :=
  Text.linesWithEnds (Text.unifyLineEnds content)

end Rules
end DiffSieve
