import DiffSieve.Command.Directory
import DiffSieve.Command.Options
import DiffSieve.Estimate
import DiffSieve.Noise.Sieve

/-!
# Diagnostics

Everything that a command says beside its output, as a value; the wording comes last.  The table
of changes is said line by line, since a number that is too long to be written ends it.
-/

namespace DiffSieve

/-- Something that a command says beside its output. -/
inductive Diagnostic where
  | usage (error : UsageError)
  | unreadableDiff (name cause : Text)
  | unexpected (cause : Text)
  | unwritableOutput (cause : Text)
  | refusedRules (cause : Text)
  | missingIgnoreFile (name : Text)
  | unreadableIgnoreFile (name cause : Text)
  | inconsistentHunk (path : Text) (hunk : Hunk)
  | tableHead
  | tableRow (change : Change) (old new : Text)
  | tableFoot
  | summary (statistics : Statistics) (savings : Savings)

namespace Diagnostic

/-- Whether a diagnostic speaks of an error. -/
def isError : Diagnostic → Bool
  | usage _ | unreadableDiff .. | unexpected _ | unwritableOutput _ | refusedRules _ => true
  | missingIgnoreFile _ | unreadableIgnoreFile .. | inconsistentHunk .. => false
  | tableHead | tableRow .. | tableFoot | summary .. => false

/-- A text followed by spaces up to a width. -/
def padded (width : Nat) (text : Text) : Text :=
  text ++ List.replicate (width - text.length) ' '

/-- A line of the table of changes. -/
def tableLine (category old new path : Text) : Text :=
  padded 15 category ++ " | ".toList ++ padded 20 old ++ " | ".toList ++ padded 20 new ++
    " | ".toList ++ path

/-- The rule above and below the table. -/
def rule : Text :=
  List.replicate 80 '-'

/-- The lines of the summary. -/
def summaryLines (s : Statistics) (savings : Savings) : List Text :=
  [[],
    "--- cleandiff summary ---".toList,
    "Files:                   ".toList ++ Number.ofNat s.files,
    "Files with formatting:   ".toList ++ Number.ofNat s.filesWithChanges,
    "Lines removed:           ".toList ++ Number.ofInt s.linesRemoved,
    "Reduction:               ".toList ++ s.reduction.render 1 ++ ['%'],
    "Est. tokens:             ".toList ++ Number.ofNat savings.before ++ " -> ".toList ++
      Number.ofNat savings.after ++ " (".toList ++ savings.share.render 1 ++ "% saved)".toList]

/-- The two counts of a hunk as the warning states them. -/
def countPair (counts : Sides Int) : Text :=
  '-' :: Number.ofInt counts.old ++ " +".toList ++ Number.ofInt counts.new

/-- The lines of a diagnostic. -/
def lines : Diagnostic → List Text
  | usage error => ["cleandiff: error: ".toList ++ error.message]
  | unreadableDiff name cause =>
    ["Error: Could not read '".toList ++ name ++ "': ".toList ++ cause]
  | unexpected cause => ["An unexpected error occurred: ".toList ++ cause]
  | unwritableOutput cause => ["Error writing file: ".toList ++ cause]
  | refusedRules cause => ["Error parsing ignore rules: ".toList ++ cause]
  | missingIgnoreFile name => ["Warning: Ignore file '".toList ++ name ++ "' not found".toList]
  | unreadableIgnoreFile name cause =>
    ["Warning: Could not read ".toList ++ name ++ ": ".toList ++ cause]
  | inconsistentHunk path hunk =>
    ["Warning: ".toList ++ path ++ ": '".toList ++ hunk.header ++ "' declares ".toList ++
      countPair hunk.declared ++ " but contains ".toList ++ countPair hunk.tally]
  | tableHead =>
    [[], "--- Formatting Changes ---".toList,
      tableLine "Category".toList "Old lines".toList "New lines".toList "File".toList, rule]
  | tableRow change old new => [tableLine change.category.name old new change.path]
  | tableFoot => [rule]
  | summary statistics savings => summaryLines statistics savings

/-- The text of a diagnostic. -/
def render (diagnostic : Diagnostic) : Text :=
  diagnostic.lines.flatMap (· ++ ['\n'])

end Diagnostic
end DiffSieve
