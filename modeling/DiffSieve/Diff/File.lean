import DiffSieve.Diff.Hunk

/-!
# Files of a diff

A file of a diff is known by up to three paths: where it was, where it is, and the one of the
two it is reported under.  The extended header adds modes, the similarity of a renamed file and
the names of the two contents.
-/

namespace DiffSieve

/-- What happened to a file. -/
inductive ChangeKind where
  | add
  | delete
  | modify
  | rename
  /-- A kind that this library has no rules for. -/
  | other (name : Text)
  deriving DecidableEq

/-- The name of a kind of change. -/
def ChangeKind.name : ChangeKind → Text
  | add => "add".toList
  | delete => "delete".toList
  | modify => "modify".toList
  | rename => "rename".toList
  | other name => name

/-- The kind of change with the given name. -/
def ChangeKind.ofName (name : Text) : ChangeKind :=
  if name = "add".toList then add
  else if name = "delete".toList then delete
  else if name = "modify".toList then modify
  else if name = "rename".toList then rename
  else other name

/-- What the extended header of a file says. -/
structure Metadata where
  newFileMode : Option Text := none
  deletedFileMode : Option Text := none
  oldMode : Option Text := none
  newMode : Option Text := none
  similarity : Option Int := none
  index : Option (Text × Text) := none
  indexMode : Option Text := none
  deriving DecidableEq

/-- A file of a diff: the path it is reported under, where it was and where it is as far as that
is known, what happened to it, its extended header, and its hunks. -/
structure File where
  path : Text
  source : Option Text
  target : Option Text
  kind : ChangeKind
  metadata : Metadata
  hunks : List Hunk
  deriving DecidableEq

/-- The name under which a version that does not exist is shown. -/
def nullDevice : Text := "/dev/null".toList

/-- The first of two texts that is known and not empty, or else the last one. -/
def firstKnown (first second : Option Text) (last : Text) : Text :=
  match first.filter (!·.isEmpty), second.filter (!·.isEmpty) with
  | some text, _ => text
  | none, some text => text
  | none, none => last

/-- A line that opens with the given words, if there is a text to follow them. -/
def optionalLine (lead : Text) (text : Option Text) : List Text :=
  match text with
  | some text => if text.isEmpty then [] else [lead ++ text]
  | none => []

namespace File

/-- The path shown for the old version. -/
def sourcePath (file : File) : Text :=
  firstKnown file.source file.target file.path

/-- The path shown for the new version. -/
def targetPath (file : File) : Text :=
  firstKnown file.target file.source file.path

/-- The lines of the extended header that depend on what happened to the file. -/
def renderKind (file : File) : List Text :=
  match file.kind with
  | .add => optionalLine "new file mode ".toList file.metadata.newFileMode
  | .delete => optionalLine "deleted file mode ".toList file.metadata.deletedFileMode
  | .rename =>
    (match file.metadata.similarity with
      | some n => ["similarity index ".toList ++ Number.ofInt n ++ ['%']]
      | none => []) ++
    ["rename from ".toList ++ file.sourcePath, "rename to ".toList ++ file.targetPath]
  | _ => []

/-- The line that names the two contents, if they are known. -/
def renderIndex (metadata : Metadata) : List Text :=
  match metadata.index with
  | some (old, new) =>
    ["index ".toList ++ old ++ "..".toList ++ new ++
      (optionalLine [' '] metadata.indexMode).flatten]
  | none => []

/-- The lines before the first hunk. -/
def renderHeader (file : File) : List Text :=
  ["diff --git a/".toList ++ file.sourcePath ++ " b/".toList ++ file.targetPath] ++
    optionalLine "old mode ".toList file.metadata.oldMode ++
    optionalLine "new mode ".toList file.metadata.newMode ++
    file.renderKind ++ renderIndex file.metadata ++
    ["--- ".toList ++ (if file.kind = .add then nullDevice else "a/".toList ++ file.sourcePath),
      "+++ ".toList ++ (if file.kind = .delete then nullDevice else "b/".toList ++ file.targetPath)]

/-- The lines that show a file.  Hunks without a change are left out, and with no hunk left the
file is left out. -/
def render (file : File) : List Text :=
  match file.hunks.filter Hunk.hasChanges with
  | [] => []
  | hunks => file.renderHeader ++ hunks.flatMap Hunk.render

end File

/-- The text of a diff: the lines of its files, each ended by a line feed. -/
def renderDiff (files : List File) : Text :=
  (files.flatMap File.render).flatMap (· ++ ['\n'])

end DiffSieve
