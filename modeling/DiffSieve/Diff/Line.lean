import DiffSieve.Text.Basic

/-!
# Lines of a comparison

A unified diff shows two versions of a file side by side in one column: a line stands in both
versions, only in the old one or only in the new one.  Everything that comes once for each
version is a value of `Sides`.
-/

namespace DiffSieve

/-- A value for the old version and a value for the new one. -/
structure Sides (α : Type) where
  old : α
  new : α
  deriving DecidableEq

/-- The two values exchanged. -/
def Sides.swap {α : Type} (s : Sides α) : Sides α :=
  ⟨s.new, s.old⟩

/-- A line of a hunk with its number in each version that holds it. -/
inductive Line where
  /-- A line of both versions. -/
  | context (content : Text) (old new : Int)
  /-- A line of the old version only. -/
  | removed (content : Text) (old : Int)
  /-- A line of the new version only. -/
  | added (content : Text) (new : Int)
  deriving DecidableEq

namespace Line

/-- The text of a line, without its mark. -/
def content : Line → Text
  | context content _ _ => content
  | removed content _ => content
  | added content _ => content

/-- The mark that stands before the text of a line. -/
def mark : Line → Char
  | context .. => ' '
  | removed .. => '-'
  | added .. => '+'

/-- Whether a line stands in both versions. -/
def isContext : Line → Bool
  | context .. => true
  | _ => false

/-- Whether a line stands in the old version. -/
def isOld : Line → Bool
  | added .. => false
  | _ => true

/-- Whether a line stands in the new version. -/
def isNew : Line → Bool
  | removed .. => false
  | _ => true

/-- A line as a diff shows it. -/
def render (line : Line) : Text :=
  line.mark :: line.content

/-- How many lines stand in each version. -/
def tally (lines : List Line) : Sides Int :=
  ⟨lines.countP isOld, lines.countP isNew⟩

theorem tally_append (first second : List Line) :
    tally (first ++ second) =
      ⟨(tally first).old + (tally second).old, (tally first).new + (tally second).new⟩ := by
  simp [tally, List.countP_append]

end Line
end DiffSieve
