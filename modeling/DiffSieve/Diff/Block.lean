import DiffSieve.Diff.Line

/-!
# Blocks of changed lines

The lines of a hunk fall into context lines and blocks, a block being a longest run of changed
lines.  Inside a block a removed line and an added line belong together if they have the same
rank among the removed and among the added lines; what is left over on the longer side belongs
to no pair.
-/

namespace DiffSieve

/-- One of the two versions. -/
inductive Side where
  | old
  | new
  deriving DecidableEq

/-- A changed line: its place in the hunk, the only version that holds it, its text and its
number there. -/
structure Edit where
  index : Nat
  side : Side
  content : Text
  number : Int
  deriving DecidableEq

/-- The line that an edit is. -/
def Edit.toLine (edit : Edit) : Line :=
  match edit.side with
  | .old => .removed edit.content edit.number
  | .new => .added edit.content edit.number

/-- A run of changed lines. -/
abbrev Block := List Edit

namespace Block

/-- The removed lines of a block. -/
def removed (block : Block) : List Edit :=
  block.filter (·.side = .old)

/-- The added lines of a block. -/
def added (block : Block) : List Edit :=
  block.filter (·.side = .new)

/-- Whether a block has lines of both versions. -/
def isTwoSided (block : Block) : Bool :=
  !(removed block).isEmpty && !(added block).isEmpty

end Block

/-- A removed line and an added line that belong together. -/
structure ChangePair where
  removed : Edit
  added : Edit
  deriving DecidableEq

/-- A part of a hunk: a line of both versions, or a block. -/
inductive Segment where
  | context (content : Text) (old new : Int)
  | block (edits : Block)
  deriving DecidableEq

namespace Segment

/-- A changed line put before some segments: it joins the block they open with, if they do. -/
def consEdit (edit : Edit) : List Segment → List Segment
  | block edits :: rest => block (edit :: edits) :: rest
  | segments => block [edit] :: segments

/-- A line, with its place, put before some segments. -/
def consLine (line : Line × Nat) (segments : List Segment) : List Segment :=
  match line with
  | (.context content old new, _) => context content old new :: segments
  | (.removed content old, index) => consEdit ⟨index, .old, content, old⟩ segments
  | (.added content new, index) => consEdit ⟨index, .new, content, new⟩ segments

/-- The block that a segment is. -/
def block? : Segment → Option Block
  | context .. => none
  | block edits => some edits

/-- The lines of a segment. -/
def toLines : Segment → List Line
  | context content old new => [.context content old new]
  | block edits => edits.map Edit.toLine

end Segment

/-- The segments of some lines, the first of which has the given place. -/
def segmentsFrom (index : Nat) (lines : List Line) : List Segment :=
  (lines.zipIdx index).foldr Segment.consLine []

/-- The segments of the lines of a hunk. -/
def segments (lines : List Line) : List Segment :=
  segmentsFrom 0 lines

/-- The blocks of the lines of a hunk. -/
def blocks (lines : List Line) : List Block :=
  (segments lines).filterMap Segment.block?

/-- The changed lines of a hunk. -/
def edits (lines : List Line) : List Edit :=
  (blocks lines).flatten

/-- The pairs of a block: first removed with first added, and so on. -/
def Block.pairs (block : Block) : List ChangePair :=
  List.zipWith ChangePair.mk (removed block) (added block)

/-- The pairs of the lines of a hunk. -/
def changePairs (lines : List Line) : List ChangePair :=
  (blocks lines).flatMap Block.pairs

namespace Segment

theorem flatMap_toLines_consEdit (edit : Edit) (segments : List Segment) :
    (consEdit edit segments).flatMap toLines = edit.toLine :: segments.flatMap toLines := by
  unfold consEdit
  split <;> simp [toLines]

/-- Nothing is lost: the segments put together again are the lines. -/
theorem flatMap_toLines_segmentsFrom (index : Nat) (lines : List Line) :
    (segmentsFrom index lines).flatMap toLines = lines := by
  induction lines generalizing index with
  | nil => rfl
  | cons line rest ih =>
    have step : segmentsFrom index (line :: rest) =
        consLine (line, index) (segmentsFrom (index + 1) rest) := rfl
    rw [step]
    cases line with
    | context => simp [consLine, toLines, ih]
    | removed => simp [consLine, flatMap_toLines_consEdit, ih, Edit.toLine]
    | added => simp [consLine, flatMap_toLines_consEdit, ih, Edit.toLine]

end Segment
end DiffSieve
