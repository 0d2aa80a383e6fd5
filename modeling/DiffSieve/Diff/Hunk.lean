import DiffSieve.Diff.Line
import DiffSieve.Number.Decimal

/-!
# Hunks

A hunk shows one stretch of a file.  Its counts are those of the lines it holds; what its header
line announced is kept aside, since the two need not agree.
-/

namespace DiffSieve

/-- One stretch of a file: the header line it was read from, the heading after it, the number of
its first line in each version, the number of lines held and announced, and the lines. -/
structure Hunk where
  header : Text
  heading : Text
  start : Sides Int
  count : Sides Int
  declared : Sides Int
  lines : List Line
  deriving DecidableEq

namespace Hunk

/-- Whether some line stands in one version only. -/
def hasChanges (hunk : Hunk) : Bool :=
  hunk.lines.any (!·.isContext)

/-- How many lines of each version the hunk holds. -/
def tally (hunk : Hunk) : Sides Int :=
  Line.tally hunk.lines

/-- Whether the hunk holds as many lines as its header announced. -/
def isConsistent (hunk : Hunk) : Bool :=
  hunk.tally = hunk.declared

/-- The hunk with other lines, counted anew. -/
def withLines (hunk : Hunk) (lines : List Line) : Hunk :=
  { hunk with lines, count := Line.tally lines }

/-- The hunk itself, counted anew. -/
def recounted (hunk : Hunk) : Hunk :=
  hunk.withLines hunk.lines

/-- The header line that fits the lines held. -/
def renderHeader (hunk : Hunk) : Text :=
  "@@ -".toList ++ Number.ofInt hunk.start.old ++ ',' :: Number.ofInt hunk.tally.old ++
    " +".toList ++ Number.ofInt hunk.start.new ++ ',' :: Number.ofInt hunk.tally.new ++
    " @@".toList ++ if hunk.heading.isEmpty then [] else ' ' :: hunk.heading

/-- The lines of text that show the hunk. -/
def render (hunk : Hunk) : List Text :=
  hunk.renderHeader :: hunk.lines.map Line.render

end Hunk
end DiffSieve
