import DiffSieve.Text.Basic

/-!
# Globs

A glob is a sequence of parts, matched from the start of a path.  Each part may end in several
places; `Part.rests` lists what can follow it, and a path matches if the parts can be laid end to
end in some way.  What follows the last part is free.
-/

namespace DiffSieve

/-- A class of characters between brackets: ranges with both ends, or all the rest. -/
structure CharClass where
  negated : Bool
  ranges : List (Char × Char)
  deriving DecidableEq

/-- Whether a character belongs to a class. -/
def CharClass.holds (cls : CharClass) (c : Char) : Bool :=
  (cls.ranges.any fun (first, last) => first ≤ c && c ≤ last) != cls.negated

/-- The first range of a class that is empty because its ends are exchanged. -/
def CharClass.reversed? (cls : CharClass) : Option (Char × Char) :=
  cls.ranges.find? fun (first, last) => last < first

/-- A test of one character. -/
inductive Glyph where
  | exactly (c : Char)
  /-- Any character but the slash. -/
  | inName
  | oneOf (cls : CharClass)
  deriving DecidableEq

/-- Whether a character passes the test. -/
def Glyph.holds : Glyph → Char → Bool
  | exactly a, c => a = c
  | inName, c => c != '/'
  | oneOf cls, c => cls.holds c

/-- A part of a glob. -/
inductive Part where
  /-- One character. -/
  | glyph (glyph : Glyph)
  /-- Any characters but slashes. -/
  | name
  /-- Nothing, or some directories at the head of the path with the slash that ends them. -/
  | leadingDirectories
  /-- Nothing, or a slash and anything after it. -/
  | innerDirectories
  /-- A slash, or the end of the path, a final line feed left aside. -/
  | stop
  deriving DecidableEq

/-- A slash. -/
def Part.slash : Part :=
  glyph (.exactly '/')

/-- All the ends of a text, itself included, that passing over characters with `p` can reach. -/
def restsWhile (p : Char → Bool) : Text → List Text
  | [] => [[]]
  | c :: rest => (c :: rest) :: if p c then restsWhile p rest else []

/-- Whether a character belongs to a line. -/
def inLine (c : Char) : Bool :=
  c != '\n'

/-- What can follow a part, at least one character having been passed, and a slash last. -/
def restsAfterSlash : Text → List Text
  | [] => []
  | c :: rest =>
    if inLine c then
      (restsWhile inLine rest).filterMap fun text =>
        match text with
        | '/' :: after => some after
        | _ => none
    else []

/-- What can follow a slash and at least one character. -/
def restsAfterInner : Text → List Text
  | '/' :: c :: rest => if inLine c then restsWhile inLine rest else []
  | _ => []

/-- What can follow a part at the head of a text. -/
def Part.rests : Part → Text → List Text
  | glyph g, c :: rest => if g.holds c then [rest] else []
  | glyph _, [] => []
  | name, text => restsWhile (· != '/') text
  | leadingDirectories, text => text :: restsAfterSlash text
  | innerDirectories, text => text :: restsAfterInner text
  | stop, '/' :: rest => [rest]
  | stop, [] => [[]]
  | stop, ['\n'] => [['\n']]
  | stop, _ => []

/-- Whether the parts can be laid end to end from the head of a text. -/
def matchesParts : List Part → Text → Bool
  | [], _ => true
  | part :: parts, text => (part.rests text).any (matchesParts parts)

end DiffSieve
