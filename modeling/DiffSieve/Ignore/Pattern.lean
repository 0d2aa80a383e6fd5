import DiffSieve.Ignore.Glob
import DiffSieve.Text.Blank
import DiffSieve.Text.Quoted

/-!
# Patterns of paths

One line of an ignore file says which paths it is about, and whether they are taken in or out
again.  A line may also say nothing: a comment, or one with a bracket that never closes.  Two
kinds of lines are refused: one that is no pattern at all, and one with a range of characters
that runs backwards.
-/

namespace DiffSieve

/-- Why a line is refused. -/
inductive PatternFault where
  /-- The line is no pattern. -/
  | invalid (line : Text)
  /-- A range of characters runs backwards. -/
  | reversedRange (first last : Char)
  deriving DecidableEq

/-- The message for a refused line. -/
def PatternFault.message : PatternFault → Text
  | invalid line => "Invalid git pattern: ".toList ++ Text.quoted line
  | reversedRange first last => "bad character range ".toList ++ [first, '-', last]

/-- Which paths a pattern is about. -/
inductive Reach where
  /-- All paths with a character that is no line feed. -/
  | everything
  /-- All paths with a slash. -/
  | everythingInside
  /-- The paths that match a glob. -/
  | glob (parts : List Part)
  deriving DecidableEq

/-- Whether a path is reached. -/
def Reach.holds : Reach → Text → Bool
  | everything, path => path.any inLine
  | everythingInside, path => path.contains '/'
  | glob parts, path => matchesParts parts path

/-- A pattern: the paths it is about, and whether it takes them out instead of in. -/
structure Pattern where
  negative : Bool
  reach : Reach
  deriving DecidableEq

/-! ## Globs of segments -/

/-- What keeps a segment from being a glob. -/
inductive GlobStop where
  /-- A backslash at its end. -/
  | danglingEscape
  /-- A bracket that never closes. -/
  | unclosedBracket
  deriving DecidableEq

/-- The ranges that the text between brackets lists.  A hyphen is a range only between two
characters. -/
def classRanges : Text → List (Char × Char)
  | first :: '-' :: last :: rest => (first, last) :: classRanges rest
  | c :: rest => (c, c) :: classRanges rest
  | [] => []

/-- Takes a mark of negation off the head of a text. -/
def takeNegation : Text → Bool × Text
  | '!' :: rest => (true, rest)
  | '^' :: rest => (true, rest)
  | text => (false, text)

/-- Takes a closing bracket off the head of a text. -/
def takeBracket : Text → Text × Text
  | ']' :: rest => ([']'], rest)
  | text => ([], text)

/-- The class that opens after a bracket and what follows it.  A mark of negation, and then one
closing bracket that is a member, may stand at its head. -/
def readClass? (text : Text) : Option (CharClass × Text) :=
  let (negated, text) := takeNegation text
  let (lead, text) := takeBracket text
  (Text.cut [']'] text).map fun (body, after) => (⟨negated, classRanges (lead ++ body)⟩, after)

theorem length_takeNegation_le (text : Text) : (takeNegation text).2.length ≤ text.length := by
  unfold takeNegation
  split <;> simp

theorem length_takeBracket_le (text : Text) : (takeBracket text).2.length ≤ text.length := by
  unfold takeBracket
  split <;> simp

theorem length_of_readClass? {text after : Text} {cls : CharClass}
    (h : readClass? text = some (cls, after)) : after.length < text.length := by
  simp only [readClass?, Option.map_eq_some_iff, Prod.mk.injEq] at h
  obtain ⟨⟨body, rest⟩, hcut, _, rfl⟩ := h
  have hlength := congrArg List.length (Text.cut_eq_append hcut)
  have hnegation := length_takeNegation_le text
  have hbracket := length_takeBracket_le (takeNegation text).2
  simp only [List.length_append, List.length_cons, List.length_nil] at hlength ⊢
  omega

/-- The parts of the glob that a segment is. -/
def globParts : Text → Except GlobStop (List Part)
  | [] => .ok []
  | '\\' :: [] => .error .danglingEscape
  | '\\' :: c :: rest => (globParts rest).map (.glyph (.exactly c) :: ·)
  | '*' :: rest => (globParts rest).map (.name :: ·)
  | '?' :: rest => (globParts rest).map (.glyph .inName :: ·)
  | '[' :: rest =>
    match h : readClass? rest with
    | none => .error .unclosedBracket
    | some (cls, after) =>
      have : after.length < rest.length := length_of_readClass? h
      (globParts after).map (.glyph (.oneOf cls) :: ·)
  | c :: rest => (globParts rest).map (.glyph (.exactly c) :: ·)
termination_by text => text.length
decreasing_by all_goals simp_all <;> omega

/-! ## Globs of paths -/

/-- The segment that stands for any number of directories. -/
def anyDirectories : Text := ['*', '*']

/-- The parts of a segment.  A lone star stands for a name that is not empty. -/
def segmentParts (segment : Text) : Except GlobStop (List Part) :=
  if segment = ['*'] then .ok [.glyph .inName, .name] else globParts segment

/-- The parts of the segments that are left, after a slash if one is due. -/
def laterParts (slashDue : Bool) : List Text → Except GlobStop (List Part)
  | [] => .ok []
  | segment :: rest =>
    if segment = anyDirectories then
      if rest.isEmpty then .ok [.slash]
      else (laterParts true rest).map (.innerDirectories :: ·)
    else do
      let own ← segmentParts segment
      let later ← laterParts true rest
      return (if slashDue then [.slash] else []) ++ own ++ (if rest.isEmpty then [.stop] else []) ++
        later

/-- The parts of all segments of a pattern. -/
def pathParts : List Text → Except GlobStop (List Part)
  | [] => .ok []
  | segment :: rest =>
    if segment = anyDirectories then (laterParts false rest).map (.leadingDirectories :: ·)
    else laterParts false (segment :: rest)

/-- The segments with runs of `**` made one. -/
def collapseDirectories : List Text → List Text
  | [] => []
  | segment :: rest =>
    let later := collapseDirectories rest
    if segment = anyDirectories && later.head? = some anyDirectories then later
    else segment :: later

/-- The segments of a pattern as they are matched.  A pattern without a slash, other than at its
end, applies in every directory; one with a slash at its head applies from the top. -/
def placeSegments : List Text → List Text
  | [] :: rest => rest
  | [segment] => inAnyDirectory segment []
  | [segment, []] => inAnyDirectory segment [[]]
  | segments => segments
where
  /-- A segment below any directories. -/
  inAnyDirectory (segment : Text) (rest : List Text) : List Text :=
    if segment = anyDirectories then segment :: rest else anyDirectories :: segment :: rest

/-- The segments with a slash at the end made a directory with anything in it. -/
def openDirectory (segments : List Text) : List Text :=
  if segments.getLast? = some [] then segments.dropLast ++ [anyDirectories] else segments

/-- Which paths some segments are about; `inside` tells whether a slash ended the pattern. -/
def reachOf (inside : Bool) (segments : List Text) : Except GlobStop Reach :=
  if segments = [anyDirectories] then .ok (if inside then .everythingInside else .everything)
  else if segments = [anyDirectories, ['*']] then .ok .everything
  else if segments = [anyDirectories, ['*'], anyDirectories] then .ok .everythingInside
  else (pathParts segments).map .glob

/-- The first range that runs backwards in the classes of a glob. -/
def Reach.reversedRange? : Reach → Option (Char × Char)
  | glob parts =>
    parts.findSome? fun part =>
      match part with
      | .glyph (.oneOf cls) => cls.reversed?
      | _ => none
  | _ => none

/-! ## Lines -/

/-- A line without the white space at its end, unless a backslash keeps a space there. -/
def trimPatternEnd (line : Text) : Text :=
  if ['\\', ' '].isSuffixOf line then line else Text.dropEndWhile Text.isBlank line

/-- Reads what is left of a line once a mark of negation is taken off it. -/
def readReach (line text : Text) : Except PatternFault (Option Reach) :=
  let pieces := text.splitOn '/'
  let segments := placeSegments pieces
  if segments.isEmpty then .error (.invalid line)
  else
    let inside := pieces.getLast? = some []
    match reachOf inside (collapseDirectories (openDirectory segments)) with
    | .error .danglingEscape => .error (.invalid line)
    | .error .unclosedBracket => .ok none
    | .ok reach =>
      match reach.reversedRange? with
      | some (first, last) => .error (.reversedRange first last)
      | none => .ok (some reach)

/-- The pattern in a line; none if the line says nothing. -/
def Pattern.ofLine (line : Text) : Except PatternFault (Option Pattern) :=
  match trimPatternEnd line with
  | [] => .ok none
  | '#' :: _ => .ok none
  | ['/'] => .ok none
  | '!' :: rest => (readReach line rest).map (·.map fun reach => ⟨true, reach⟩)
  | text => (readReach line text).map (·.map fun reach => ⟨false, reach⟩)

end DiffSieve
