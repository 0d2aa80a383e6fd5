import DiffSieve.Ignore.Pattern
import DiffSieve.Ignore.Rules

/-!
# The gitignore reader of rules

Rules are the patterns of some lines in their order.  The last pattern that is about a path
decides on it.
-/

namespace DiffSieve

/-- The patterns of some lines, in order, empty lines left out; a line that says nothing keeps its
place.  One refused line refuses them all. -/
def Pattern.ofLines (lines : List Text) : Except PatternFault (List (Option Pattern)) :=
  (lines.filter (!·.isEmpty)).mapM Pattern.ofLine

/-- A path from where the rules are: one leading slash, or else one leading `./`, is dropped. -/
def relativePath : Text → Text
  | '/' :: rest => rest
  | '.' :: '/' :: rest => rest
  | path => path

/-- Whether the last pattern that is about a path takes it in. -/
def Pattern.lastTakesIn (patterns : List (Option Pattern)) (path : Text) : Bool :=
  let path := relativePath path
  match patterns.reduceOption.findRev? (·.reach.holds path) with
  | some pattern => !pattern.negative
  | none => false

/-- The rules of gitignore lines. -/
def gitignore : RuleReader := fun lines =>
  match Pattern.ofLines lines with
  | .ok patterns => .ok ⟨patterns.length, Pattern.lastTakesIn patterns⟩
  | .error fault => .error fault.message

end DiffSieve
