import DiffSieve.Diff.Block
import DiffSieve.Diff.Hunk
import DiffSieve.Noise.Config
import DiffSieve.Noise.Likeness
import DiffSieve.NumberSet

/-!
# Detecting formatting noise

For each category a detector says which removed and which added lines of a hunk are formatting
only.  Some look at pairs of lines, some at single lines, and two at whole blocks.  Where the
order of lines is what changed, the detector also says which lines belong together by content.
-/

namespace DiffSieve

/-- What a detector found: the numbers of the lines flagged in each version, and the lines that
belong together by content. -/
structure Detection where
  flagged : Sides NumberSet
  pairs : List ChangePair
  deriving DecidableEq

namespace Detection

/-- Whether any line is flagged. -/
def isNonempty (detection : Detection) : Bool :=
  !detection.flagged.old.isEmpty || !detection.flagged.new.isEmpty

/-- The numbers of the given edits in each version. -/
def numbers (edits : List Edit) : Sides NumberSet :=
  ⟨.ofList ((Block.removed edits).map Edit.number), .ofList ((Block.added edits).map Edit.number)⟩

/-- The detection that flags the given edits. -/
def ofEdits (edits : List Edit) (pairs : List ChangePair) : Detection :=
  ⟨numbers edits, pairs⟩

/-- The two lines of each pair. -/
def bothLines (pairs : List ChangePair) : List Edit :=
  pairs.flatMap fun pair => [pair.removed, pair.added]

/-- Flags the pairs that satisfy `alike`, and the single edits that satisfy `alone`. -/
def ofLikeness (alike : ChangePair → Bool) (alone : Edit → Bool) (lines : List Line)
    (pairs : List ChangePair) : Detection :=
  ofEdits (bothLines (pairs.filter alike) ++ (edits lines).filter alone) []

/-! ## Imports in another order -/

/-- Whether two edits have the same text, white space at the ends left aside. -/
def sameStatement (first second : Edit) : Bool :=
  Text.trim first.content == Text.trim second.content

/-- Pairs each removed edit with the first added edit of the same text that is not yet used. -/
def matchStatements : (removed added : List Edit) → List ChangePair
  | [], _ => []
  | edit :: removed, added =>
    match added.find? (sameStatement edit) with
    | some partner =>
      ⟨edit, partner⟩ :: matchStatements removed (added.eraseP (sameStatement edit))
    | none => matchStatements removed added

/-- Whether a block holds only imports, the same ones in each version. -/
def isReordering (dialect : Dialect) (block : Block) : Bool :=
  block.all (dialect.isImport ·.content) && block.isTwoSided &&
    (block.removed.map (Text.trim ·.content)).isPerm (block.added.map (Text.trim ·.content))

/-- Flags the blocks in which only the order of imports changed. -/
def ofImports (dialect : Dialect) (lines : List Line) : Detection :=
  let reordered :=
    if dialect.importsMayMove then (blocks lines).filter (isReordering dialect) else []
  ofEdits reordered.flatten (reordered.flatMap fun b => matchStatements b.removed b.added)

/-! ## Statements wrapped over lines -/

/-- The text of some edits, with line feeds between them. -/
def joined (edits : List Edit) : Text :=
  ['\n'].intercalate (edits.map Edit.content)

/-- The tokens of a text that do not depend on where its lines are broken. -/
def wrapTokens (text : Text) : Except Unterminated (List Token) :=
  (Token.tokens text).map Token.dropWrapCommas

/-- Whether two texts differ, and have the same tokens apart from line breaks. -/
def isRewrapped (old new : Text) : Bool :=
  old != new &&
    match wrapTokens old, wrapTokens new with
    | .ok oldTokens, .ok newTokens => oldTokens == newTokens
    | _, _ => false

/-- Whether a block only wraps its text in another way. -/
def isRewrapping (block : Block) : Bool :=
  block.isTwoSided && isRewrapped (joined block.removed) (joined block.added)

/-- Flags the blocks that only wrap their text in another way. -/
def ofWrapping (dialect : Dialect) (lines : List Line) : Detection :=
  let rewrapped := if dialect.linesMayWrap then (blocks lines).filter isRewrapping else []
  ofEdits rewrapped.flatten []

/-! ## All detectors -/

/-- The text of the line after a place in the hunk. -/
def contentAfter (lines : List Line) (index : Nat) : Option Text :=
  lines[index + 1]?.map Line.content

/-- A question about the two texts of a pair. -/
def onContents (alike : Text → Text → Bool) (pair : ChangePair) : Bool :=
  alike pair.removed.content pair.added.content

/-- The question whether a pair differs in a semicolon that does not matter where it stands. -/
def onlySemicolonIn (lines : List Line) (pair : ChangePair) : Bool :=
  Likeness.onlySemicolon pair.removed.content pair.added.content
    (contentAfter lines pair.added.index)

/-- What the detector of a category finds in a hunk. -/
def ofCategory (dialect : Dialect) (lines : List Line) (pairs : List ChangePair) :
    Category → Detection
  | .whitespace =>
    ofLikeness (onContents Likeness.onlySpace) (fun edit => (Text.trim edit.content).isEmpty)
      lines pairs
  | .comment =>
    ofLikeness (onContents Likeness.onlyComments) (Dialect.isCommentLine ·.content) lines pairs
  | .quote => ofLikeness (onContents Likeness.onlyQuotes) (fun _ => false) lines pairs
  | .trailingComma =>
    ofLikeness (onContents Likeness.onlyTrailingComma) (fun _ => false) lines pairs
  | .semicolon => ofLikeness (onlySemicolonIn lines) (fun _ => false) lines pairs
  | .importOrder => ofImports dialect lines
  | .lineWrap => ofWrapping dialect lines

end Detection

/-- A category together with what its detector found. -/
structure Finding where
  category : Category
  detection : Detection
  deriving DecidableEq

/-- What the detectors of the chosen categories find in a hunk, as far as they flag a line. -/
def findings (config : Config) (dialect : Dialect) (lines : List Line)
    (pairs : List ChangePair) : List Finding :=
  (config.categories.map fun c => ⟨c, Detection.ofCategory dialect lines pairs c⟩).filter
    (·.detection.isNonempty)

/-- The report of one finding in a file. -/
structure Change where
  category : Category
  path : Text
  flagged : Sides NumberSet
  deriving DecidableEq

namespace Change

/-- The report of a finding in the file at a path. -/
def ofFinding (path : Text) (finding : Finding) : Change :=
  ⟨finding.category, path, finding.detection.flagged⟩

/-- Every change of formatting is of the lowest severity. -/
def severity (_ : Change) : Text := "low".toList

/-- The numbers flagged in either version. -/
def numbers (change : Change) : NumberSet :=
  change.flagged.old.union change.flagged.new

end Change
end DiffSieve
