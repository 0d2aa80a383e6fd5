import DiffSieve.Noise.Detection

/-!
# Stripping a hunk of its noise

A detection may speak of single lines or of whole blocks.  A block whose lines are all flagged as
a block becomes context: its added lines, numbered on the old side by its removed lines.  In any
other block a flagged removed line is dropped, and a flagged added line becomes context if the
removed line it belongs to is flagged too, and is dropped otherwise.  Everything else stays.
-/

namespace DiffSieve

/-- What a detection speaks of. -/
inductive Scope where
  | lines
  | blocks
  deriving DecidableEq

/-- The detector of wrapped statements is the only one to speak of whole blocks. -/
def Category.scope : Category → Scope
  | lineWrap => .blocks
  | _ => .lines

/-- The scope of detections under a name; a name of no category speaks of single lines. -/
def Scope.ofName (name : Text) : Scope :=
  ((Category.ofName? name).map Category.scope).getD .lines

/-- What a hunk is stripped by: the numbers flagged as single lines and as blocks, and the lines
that belong together, of which the later pairs take precedence. -/
structure Flags where
  lines : Sides NumberSet
  blocks : Sides NumberSet
  pairs : List ChangePair

namespace Flags

/-- The union of the numbers flagged in each version. -/
def unite (detections : List Detection) : Sides NumberSet :=
  ⟨detections.foldr (·.flagged.old.union ·) .empty, detections.foldr (·.flagged.new.union ·) .empty⟩

/-- The flags of some detections.  Pairs by content come after pairs by rank. -/
def ofDetections (pairs : List ChangePair) (detections : List (Scope × Detection)) : Flags where
  lines := unite ((detections.filter (·.1 = .lines)).map (·.2))
  blocks := unite ((detections.filter (·.1 = .blocks)).map (·.2))
  pairs := pairs ++ detections.flatMap (·.2.pairs)

/-- Whether an edit is among the given numbers of its version. -/
def holds (numbers : Sides NumberSet) (edit : Edit) : Bool :=
  match edit.side with
  | .old => edit.number ∈ numbers.old
  | .new => edit.number ∈ numbers.new

/-- The number of the removed line that belongs to the added line of the given number. -/
def partner? (flags : Flags) (number : Int) : Option Int :=
  (flags.pairs.findRev? (·.added.number = number)).map (·.removed.number)

/-- Whether a block becomes context as a whole. -/
def collapses (flags : Flags) (block : Block) : Bool :=
  block.all (holds flags.blocks) && block.isTwoSided

end Flags

/-- Added lines as context, numbered on the old side by the numbers in turn, the last of them
again and again once they are used up. -/
def asContext (last : Int) : List Int → List Edit → List Line
  | _, [] => []
  | [], edit :: added => .context edit.content last edit.number :: asContext last [] added
  | number :: numbers, edit :: added =>
    .context edit.content number edit.number :: asContext number numbers added

/-- A block as context. -/
def Block.collapsed (block : Block) : List Line :=
  match block.removed.map Edit.number with
  | [] => []
  | number :: numbers => asContext number (number :: numbers) block.added

namespace Flags

/-- What becomes of a single edit. -/
def stripEdit (flags : Flags) (edit : Edit) : List Line :=
  if holds flags.lines edit then
    match edit.side with
    | .old => []
    | .new =>
      match flags.partner? edit.number with
      | some old => if old ∈ flags.lines.old then [.context edit.content old edit.number] else []
      | none => []
  else [edit.toLine]

/-- What becomes of a block. -/
def stripBlock (flags : Flags) (block : Block) : List Line :=
  if flags.collapses block then block.collapsed else block.flatMap flags.stripEdit

/-- What becomes of a segment. -/
def stripSegment (flags : Flags) : Segment → List Line
  | .context content old new => [.context content old new]
  | .block edits => flags.stripBlock edits

/-- What becomes of the lines of a hunk. -/
def stripLines (flags : Flags) (lines : List Line) : List Line :=
  (segments lines).flatMap flags.stripSegment

/-- Whether a block is touched by the flags. -/
def touches (flags : Flags) (block : Block) : Bool :=
  flags.collapses block || block.any (holds flags.lines)

end Flags

/-- A stripped hunk, if a change is left in it, and whether anything was taken out or turned into
context. -/
structure Stripped where
  hunk : Option Hunk
  changed : Bool
  deriving DecidableEq

/-- Strips a hunk of what is flagged. -/
def Hunk.strip (hunk : Hunk) (flags : Flags) : Stripped :=
  let stripped := hunk.withLines (flags.stripLines hunk.lines)
  { hunk := if stripped.hasChanges then some stripped else none
    changed := (blocks hunk.lines).any flags.touches }

end DiffSieve
