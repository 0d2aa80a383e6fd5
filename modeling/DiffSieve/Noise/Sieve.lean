import DiffSieve.Noise.Strip
import DiffSieve.Diff.Reader
import DiffSieve.Number.Percent

/-!
# Sieving a diff

Every hunk of every file is searched for noise of the chosen categories and stripped of it.  A
file that is to pass through is copied.  What is left of a diff is joined by the reports of what
was found, by the paths of the files that were changed, and by a summary in numbers.
-/

namespace DiffSieve

/-- What is left of some files, what was found in them, and the paths of those changed. -/
structure Sieved where
  files : List File
  changes : List Change
  paths : List Text
  deriving DecidableEq

/-- The findings in a hunk of a file at a path. -/
def Hunk.findings (config : Config) (path : Text) (hunk : Hunk) : List Finding :=
  DiffSieve.findings config (Dialect.ofPath path) hunk.lines (changePairs hunk.lines)

/-- The flags that what was found in a hunk amounts to. -/
def Hunk.flags (hunk : Hunk) (found : List Finding) : Flags :=
  .ofDetections (changePairs hunk.lines) (found.map fun f => (f.category.scope, f.detection))

/-- Strips a hunk of what was found in it. -/
def Hunk.sieve (hunk : Hunk) (found : List Finding) : Stripped :=
  hunk.strip (hunk.flags found)

namespace File

/-- The file with other hunks; no file at all if there are none. -/
def withHunks (file : File) : List Hunk → List File
  | [] => []
  | hunks => [{ file with hunks }]

/-- A file that passes through: only hunks without a change are left out. -/
def passed (file : File) : Sieved where
  files := file.withHunks ((file.hunks.filter Hunk.hasChanges).map Hunk.recounted)
  changes := []
  paths := []

/-- A file without the noise of the chosen categories. -/
def sieved (config : Config) (file : File) : Sieved :=
  let found := file.hunks.map fun hunk => (hunk, hunk.findings config file.path)
  let stripped := found.map fun (hunk, found) => hunk.sieve found
  { files := file.withHunks (stripped.filterMap Stripped.hunk)
    changes := found.flatMap fun (_, found) => found.map (Change.ofFinding file.path)
    paths := if stripped.any Stripped.changed then [file.path] else [] }

/-- What becomes of a file, given the paths that pass through. -/
def sieve (config : Config) (passes : Text → Bool) (file : File) : Sieved :=
  if passes file.path then file.passed else file.sieved config

end File

/-- What becomes of some files, given the paths that pass through. -/
def sieve (config : Config) (passes : Text → Bool) (files : List File) : Sieved :=
  let results := files.map (File.sieve config passes)
  { files := results.flatMap Sieved.files
    changes := results.flatMap Sieved.changes
    paths := results.flatMap Sieved.paths }

/-! ## Summary -/

/-- A summary in numbers. -/
structure Statistics where
  files : Nat
  filesWithChanges : Nat
  linesRemoved : Int
  lines : Nat
  deriving DecidableEq

/-- The lines of all hunks of some files. -/
def allLines (files : List File) : List Line :=
  files.flatMap fun file => file.hunks.flatMap Hunk.lines

/-- How many lines of some files stand in one version only. -/
def changedCount (files : List File) : Nat :=
  (allLines files).countP (!·.isContext)

namespace Statistics

/-- The summary of what became of some files, given the paths of the files changed. -/
def ofFiles (before after : List File) (paths : List Text) : Statistics where
  files := before.length
  filesWithChanges := paths.length
  linesRemoved := changedCount before - changedCount after
  lines := (allLines before).length

/-- The share of all lines that was removed. -/
def reduction (s : Statistics) : Number.Share :=
  ⟨s.linesRemoved, s.lines⟩

end Statistics

/-! ## From text to text -/

/-- A diff before and after sieving. -/
structure Cleaned where
  source : List File
  sieved : Sieved
  deriving DecidableEq

namespace Cleaned

/-- The text of what is left. -/
def text (cleaned : Cleaned) : Text :=
  renderDiff cleaned.sieved.files

/-- The summary. -/
def statistics (cleaned : Cleaned) : Statistics :=
  .ofFiles cleaned.source cleaned.sieved.files cleaned.sieved.paths

end Cleaned

/-- Reads a diff and sieves it. -/
def clean (config : Config) (passes : Text → Bool) (text : Text) : Except Number.Fault Cleaned :=
  (readDiff text).map fun files => ⟨files, sieve config passes files⟩

end DiffSieve
