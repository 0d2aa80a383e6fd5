import DiffSieve.Diff.Attribute
import DiffSieve.Diff.Header
import DiffSieve.Text.Lines

/-!
# Reading a diff

A diff is read line by line.  Each line has a role that does not depend on where it stands, and
the reader is in one of three places: outside every file, in the header of a file, or in a hunk
of a file.  Lines are numbered by what was read, never by what a header announced, so every text
can be read; only numerals that are refused stop the reader.
-/

namespace DiffSieve

/-- What a line may be. -/
inductive Role where
  /-- It opens a file; what follows its first words. -/
  | file (rest : Text)
  /-- It opens a hunk. -/
  | hunk (header : HunkHeader)
  /-- It looks like the header of a hunk and is none. -/
  | noise
  /-- It belongs to an extended header. -/
  | extended (field : Attribute)
  /-- It is anything else. -/
  | content
  deriving DecidableEq

/-- The role of a line. -/
def Role.ofLine (line : Text) : Role :=
  match Text.after? fileLead line with
  | some rest => file rest
  | none =>
    if "@@".toList.isPrefixOf line then
      match HunkHeader.ofLine? line with
      | some header => hunk header
      | none => noise
    else
      match Attribute.ofLine? line with
      | some field => extended field
      | none => content

/-- The line that says that the line before it has no line end. -/
def noLineEndMark : Text := "\\ No newline at end of file".toList

/-- A hunk whose lines are held newest first, with one more line, which its mark classifies.
Without a mark the whole line is content of both versions. -/
def Hunk.push (hunk : Hunk) (line : Text) : Hunk :=
  let old := hunk.start.old + hunk.count.old
  let new := hunk.start.new + hunk.count.new
  match line with
  | '+' :: content =>
    { hunk with
      lines := .added content new :: hunk.lines, count := ⟨hunk.count.old, hunk.count.new + 1⟩ }
  | '-' :: content =>
    { hunk with
      lines := .removed content old :: hunk.lines, count := ⟨hunk.count.old + 1, hunk.count.new⟩ }
  | ' ' :: content => both content old new
  | content => both content old new
where
  /-- The hunk with one more line of both versions. -/
  both (content : Text) (old new : Int) : Hunk :=
    { hunk with
      lines := .context content old new :: hunk.lines
      count := ⟨hunk.count.old + 1, hunk.count.new + 1⟩ }

/-- Where the reader is.  The hunk it is in holds its lines newest first. -/
inductive Place where
  | outside
  | header (file : File)
  | hunk (file : File) (hunk : Hunk)

namespace Place

/-- The file with one more hunk, whose lines are put in order. -/
def closeHunk (file : File) (hunk : Hunk) : File :=
  { file with hunks := file.hunks ++ [{ hunk with lines := hunk.lines.reverse }] }

/-- The file that the reader is in, with the hunk it is in. -/
def file? : Place → Option File
  | outside => none
  | header file => some file
  | hunk file current => some (closeHunk file current)

/-- Where the reader is after a line of the given role that opens no file. -/
def step (place : Place) (line : Text) : Role → Except Number.Fault Place
  | .hunk opening =>
    match place.file? with
    | none => .ok outside
    | some file => (opening.opened line).map (hunk file)
  | .extended field =>
    match place.file? with
    | none => .ok outside
    | some file => (file.record field).map header
  | .content =>
    match place with
    | outside => .ok outside
    | header file => .ok (header (file.recordPaths line))
    | hunk file current =>
      .ok (hunk file (if line = noLineEndMark then current else current.push line))
  | _ => .ok place

end Place

/-- The files of the lines that are left, the one that the reader is in included. -/
def readFrom (place : Place) : List Text → Except Number.Fault (List File)
  | [] => .ok place.file?.toList
  | line :: rest =>
    match Role.ofLine line with
    | .file paths => (readFrom (.header (File.opened paths)) rest).map (place.file?.toList ++ ·)
    | role => do readFrom (← place.step line role) rest

/-- The files of a diff. -/
def readDiff (text : Text) : Except Number.Fault (List File) :=
  readFrom .outside (Text.lines text)

end DiffSieve
