import DiffSieve.Diff.File
import DiffSieve.Number.Numeral

/-!
# Lines of the extended header

A line of the extended header is known by the words it opens with, wherever it stands.  It
changes what is known of the file it belongs to, and only one of its forms can be refused: a
similarity whose digits are no numeral.
-/

namespace DiffSieve

/-- A line of the extended header. -/
inductive Attribute where
  | newFileMode (mode : Text)
  | deletedFileMode (mode : Text)
  | oldMode (mode : Text)
  | newMode (mode : Text)
  | renameFrom (path : Text)
  | renameTo (path : Text)
  /-- The similarity as it is written, without percent signs at its end. -/
  | similarity (word : Text)
  /-- The names of the two contents, if there are two, and the mode, if there is one. -/
  | index (names : Option (Text × Text)) (mode : Option Text)
  deriving DecidableEq

namespace Attribute

/-- The last of the words that single spaces separate. -/
def lastWord (text : Text) : Text :=
  Text.afterLast ' ' text

/-- The two names in a text of the form `old..new`; none if it has more or fewer parts. -/
def contentNames (text : Text) : Option (Text × Text) :=
  (Text.cut "..".toList text).filter fun (_, new) => !Text.holds "..".toList new

/-- The attribute in what follows `similarity index `. -/
def ofSimilarity (rest : Text) : Attribute :=
  similarity (Text.dropEndWhile (· = '%') (lastWord rest))

/-- The attribute in what follows `index `. -/
def ofIndex (rest : Text) : Attribute :=
  match rest.splitOn ' ' with
  | [] => index none none
  | names :: more => index (contentNames names) more.head?

/-- The attribute that a line states, if it is a line of the extended header. -/
def ofLine? (line : Text) : Option Attribute :=
  (Text.after? "new file mode ".toList line).map (newFileMode <| lastWord ·)
  <|> (Text.after? "deleted file mode ".toList line).map (deletedFileMode <| lastWord ·)
  <|> (Text.after? "old mode ".toList line).map (oldMode <| lastWord ·)
  <|> (Text.after? "new mode ".toList line).map (newMode <| lastWord ·)
  <|> (Text.after? "rename from ".toList line).map renameFrom
  <|> (Text.after? "rename to ".toList line).map renameTo
  <|> (Text.after? "similarity index ".toList line).map ofSimilarity
  <|> (Text.after? "index ".toList line).map ofIndex

end Attribute

namespace File

/-- The file with other metadata. -/
def withMetadata (file : File) (change : Metadata → Metadata) : File :=
  { file with metadata := change file.metadata }

/-- What is known of a file after a line of its extended header.  A similarity that is not made
of digits is passed over. -/
def record (file : File) : Attribute → Except Number.Fault File
  | .newFileMode mode =>
    .ok { file.withMetadata ({ · with newFileMode := some mode }) with kind := .add }
  | .deletedFileMode mode =>
    .ok { file.withMetadata ({ · with deletedFileMode := some mode }) with kind := .delete }
  | .oldMode mode => .ok (file.withMetadata ({ · with oldMode := some mode }))
  | .newMode mode => .ok (file.withMetadata ({ · with newMode := some mode }))
  | .renameFrom path => .ok { file with kind := .rename, source := some path }
  | .renameTo path => .ok { file with kind := .rename, target := some path, path }
  | .similarity word =>
    if !word.isEmpty && word.all Text.isDigit then
      (Number.read word).map fun n => file.withMetadata ({ · with similarity := some (n : Int) })
    else .ok file
  | .index names mode =>
    .ok (file.withMetadata fun m =>
      { m with index := names <|> m.index, indexMode := mode <|> m.indexMode })

end File
end DiffSieve
