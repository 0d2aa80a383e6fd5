import DiffSieve.Diff.File
import DiffSieve.Number.Numeral
import DiffSieve.Text.Blank
import DiffSieve.Text.Letter

/-!
# Header lines

Three kinds of lines announce what follows them: the line that opens a file, the two lines that
name its versions, and the line that opens a hunk.  Paths carry a one-letter directory that
tells the versions apart and is no part of the path.
-/

namespace DiffSieve

/-! ## Paths -/

/-- A path without the one-letter directory at its head. -/
def stripPathPrefix : Text → Text
  | c :: '/' :: d :: rest => if Text.isLetter c then d :: rest else c :: '/' :: d :: rest
  | path => path

/-- The words that open a file. -/
def fileLead : Text := "diff --git ".toList

/-- The two paths that follow the words which open a file.  Two words are the two paths; with
spaces in a path, the second one begins at the first directory `b`; failing that, they are the
first two of the pieces between spaces. -/
def splitPaths (rest : Text) : Text × Text :=
  match rest.splitOn ' ' with
  | [source, target] =>
    if !source.isEmpty && !target.isEmpty && !(source.any Text.isBlank) &&
        !(target.any Text.isBlank) then
      (source, target)
    else inPieces rest
  | _ => inPieces rest
where
  /-- The two paths where they are not two words. -/
  inPieces (rest : Text) : Text × Text :=
    match Text.cut " b/".toList rest with
    | some (source, target) => (source, "b/".toList ++ target)
    | none =>
      match rest.splitOn ' ' with
      | [] => ([], [])
      | [source] => (source, [])
      | source :: target :: _ => (source, target)

/-- A path that is not empty. -/
def knownPath (path : Text) : Option Text :=
  if path.isEmpty then none else some path

namespace File

/-- The file that a line opens, given what follows its first words. -/
def opened (rest : Text) : File :=
  let (source, target) := splitPaths rest
  let source := knownPath (stripPathPrefix source)
  let target := knownPath (stripPathPrefix target)
  { path := (target <|> source).getD [], source, target, kind := .modify, metadata := {},
    hunks := [] }

/-- What is known of a file after a line that names its old version. -/
def nameSource (file : File) (path : Text) : File :=
  if path = nullDevice then
    if file.kind = .modify then { file with kind := .add } else file
  else { file with source := some (stripPathPrefix path) }

/-- What is known of a file after a line that names its new version. -/
def nameTarget (file : File) (path : Text) : File :=
  if path = nullDevice then
    if file.kind = .modify then { file with kind := .delete } else file
  else { file with target := some (stripPathPrefix path), path := stripPathPrefix path }

/-- The path in the line that names a version: it ends at the first tab. -/
def pathBeforeTab (rest : Text) : Text :=
  rest.takeWhile (· != '\t')

/-- What is known of a file after any line before its first hunk that is not one of the extended
header: only the two lines that name the versions say anything. -/
def recordPaths (file : File) (line : Text) : File :=
  match Text.after? "--- ".toList line, Text.after? "+++ ".toList line with
  | some rest, _ => file.nameSource (pathBeforeTab rest)
  | none, some rest => file.nameTarget (pathBeforeTab rest)
  | none, none => file

end File

/-! ## Hunks -/

/-- The range of lines that a hunk announces for one version, as it is written. -/
structure Range where
  start : Text
  count : Option Text
  deriving DecidableEq

namespace Range

/-- The numeral at the head of a text and what follows it. -/
def numeral? (text : Text) : Option (Text × Text) :=
  match text.takeWhile Text.isDecimal with
  | [] => none
  | digits => some (digits, text.dropWhile Text.isDecimal)

/-- The range at the head of a text and what follows it. -/
def read? (text : Text) : Option (Range × Text) := do
  let (start, rest) ← numeral? text
  match Text.after? [','] rest with
  | none => return (⟨start, none⟩, rest)
  | some rest => do
    let (count, rest) ← numeral? rest
    return (⟨start, some count⟩, rest)

end Range

/-- What the header line of a hunk says, as it is written. -/
structure HunkHeader where
  old : Range
  new : Range
  heading : Text
  deriving DecidableEq

namespace HunkHeader

/-- The header that a line is, if it is one. -/
def ofLine? (line : Text) : Option HunkHeader := do
  let rest ← Text.after? "@@ -".toList line
  let (old, rest) ← Range.read? rest
  let rest ← Text.after? " +".toList rest
  let (new, rest) ← Range.read? rest
  let heading ← Text.after? " @@".toList rest
  return ⟨old, new, heading⟩

/-- The number of lines announced for one version: one, if none is written. -/
def declaredCount (range : Range) : Except Number.Fault Nat :=
  match range.count with
  | some count => Number.read count
  | none => .ok 1

/-- The hunk that a header line opens, without lines yet.  The starts are read before the
counts. -/
def opened (line : Text) (header : HunkHeader) : Except Number.Fault Hunk := do
  let oldStart ← Number.read header.old.start
  let newStart ← Number.read header.new.start
  let oldCount ← declaredCount header.old
  let newCount ← declaredCount header.new
  return { header := line, heading := Text.trim header.heading, start := ⟨oldStart, newStart⟩,
           count := ⟨0, 0⟩, declared := ⟨oldCount, newCount⟩, lines := [] }

end HunkHeader
end DiffSieve
