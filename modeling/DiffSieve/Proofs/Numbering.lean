import DiffSieve.Diff.Reader
import Mathlib.Tactic.Lemma

/-!
# How the lines of a hunk are numbered

A hunk that was read is numbered by two running counters, one for each version: they begin at
the two starts of the hunk, and a line moves the counter of every version that holds it.
`renumber` gives some lines the numbers of the counters, and lines are `Numbered` if they have
these numbers already.

The reader holds the hunk it is in with its newest line first.  `inOrder_push` says what it does
to that hunk when the lines are put in order: they get one more line at the end, which takes the
numbers that the counters have reached.  So a hunk that is numbered and counted by the lines it
holds stays so (`IsCounted.snoc`).
-/

namespace DiffSieve

/-! ## Counters -/

instance : Add (Sides Int) :=
  ⟨fun s t => ⟨s.old + t.old, s.new + t.new⟩⟩

lemma Sides.add_def (s t : Sides Int) : s + t = ⟨s.old + t.old, s.new + t.new⟩ := rfl

lemma Sides.add_assoc (s t u : Sides Int) : s + t + u = s + (t + u) := by
  simp only [Sides.add_def, Int.add_assoc]

lemma Sides.add_zero (s : Sides Int) : s + ⟨0, 0⟩ = s := by
  simp only [Sides.add_def, Int.add_zero]

lemma Sides.zero_add (s : Sides Int) : ⟨0, 0⟩ + s = s := by
  simp only [Sides.add_def, Int.zero_add]

namespace Line

lemma tally_nil : tally [] = ⟨0, 0⟩ := rfl

lemma tally_cons (line : Line) (rest : List Line) :
    tally (line :: rest) = tally [line] + tally rest :=
  tally_append [line] rest

/-- The line with other numbers in the versions that hold it. -/
def withNumbers (numbers : Sides Int) : Line → Line
  | context content _ _ => context content numbers.old numbers.new
  | removed content _ => removed content numbers.old
  | added content _ => added content numbers.new

/-- The line that a marked line of text is. -/
def ofMarked (numbers : Sides Int) : Text → Line
  | '+' :: content => added content numbers.new
  | '-' :: content => removed content numbers.old
  | ' ' :: content => context content numbers.old numbers.new
  | content => context content numbers.old numbers.new

@[simp] lemma withNumbers_ofMarked (numbers : Sides Int) (text : Text) :
    (ofMarked numbers text).withNumbers numbers = ofMarked numbers text := by
  unfold ofMarked
  split <;> rfl

lemma tally_withNumbers (numbers : Sides Int) (line : Line) :
    tally [line.withNumbers numbers] = tally [line] := by
  cases line <;> rfl

end Line

/-- The lines with the numbers of two counters that stand at `next`. -/
def renumber (next : Sides Int) : List Line → List Line
  | [] => []
  | line :: rest => line.withNumbers next :: renumber (next + Line.tally [line]) rest

/-- Whether lines have the numbers of two counters that stand at `next`. -/
def Numbered (next : Sides Int) (lines : List Line) : Prop :=
  renumber next lines = lines

instance (next : Sides Int) (lines : List Line) : Decidable (Numbered next lines) :=
  inferInstanceAs (Decidable (renumber next lines = lines))

lemma renumber_append (next : Sides Int) (first second : List Line) :
    renumber next (first ++ second) =
      renumber next first ++ renumber (next + Line.tally first) second := by
  induction first generalizing next with
  | nil => rw [Line.tally_nil, Sides.add_zero]; rfl
  | cons line rest ih =>
    rw [Line.tally_cons, ← Sides.add_assoc, List.cons_append, renumber, ih]
    rfl

lemma tally_renumber (next : Sides Int) (lines : List Line) :
    Line.tally (renumber next lines) = Line.tally lines := by
  induction lines generalizing next with
  | nil => rfl
  | cons line rest ih =>
    rw [renumber, Line.tally_cons, ih, Line.tally_withNumbers, ← Line.tally_cons]

lemma mark_content_withNumbers (numbers : Sides Int) (line : Line) :
    (line.withNumbers numbers).mark = line.mark ∧
      (line.withNumbers numbers).content = line.content := by
  cases line <;> exact ⟨rfl, rfl⟩

lemma map_renumber (next : Sides Int) (lines : List Line) :
    (renumber next lines).map (fun line => (line.mark, line.content)) =
      lines.map fun line => (line.mark, line.content) := by
  induction lines generalizing next with
  | nil => rfl
  | cons line rest ih =>
    obtain ⟨hmark, hcontent⟩ := mark_content_withNumbers next line
    rw [renumber, List.map_cons, List.map_cons, ih, hmark, hcontent]

lemma numbered_nil (next : Sides Int) : Numbered next [] := rfl

lemma numbered_cons {next : Sides Int} {line : Line} {rest : List Line} :
    Numbered next (line :: rest) ↔
      line.withNumbers next = line ∧ Numbered (next + Line.tally [line]) rest := by
  rw [Numbered, renumber, List.cons.injEq]
  rfl

lemma Numbered.of_append {next : Sides Int} {first second : List Line}
    (h : Numbered next (first ++ second)) :
    Numbered next first ∧ Numbered (next + Line.tally first) second := by
  rw [Numbered, renumber_append] at h
  refine List.append_inj h ?_
  have hlength := congrArg List.length (map_renumber next first)
  rwa [List.length_map, List.length_map] at hlength

lemma Numbered.concat {next : Sides Int} {lines : List Line} {line : Line}
    (h : Numbered next lines) (hl : line.withNumbers (next + Line.tally lines) = line) :
    Numbered next (lines ++ [line]) := by
  rw [Numbered, renumber_append, h, renumber, hl]
  rfl

/-! ## Hunks in order -/

namespace Hunk

/-- A hunk whose lines were held newest first, with its lines in order. -/
def inOrder (hunk : Hunk) : Hunk :=
  { hunk with lines := hunk.lines.reverse }

/-- A hunk with one more line at its end, numbered by what the hunk counts so far. -/
def snoc (hunk : Hunk) (text : Text) : Hunk :=
  let line := Line.ofMarked (hunk.start + hunk.count) text
  { hunk with lines := hunk.lines ++ [line], count := hunk.count + Line.tally [line] }

lemma inOrder_push (hunk : Hunk) (text : Text) :
    (hunk.push text).inOrder = hunk.inOrder.snoc text := by
  unfold push snoc inOrder
  split <;> simp [Line.ofMarked, Line.tally, Line.isOld, Line.isNew, push.both, Sides.add_def]

/-- Whether a hunk is numbered from its starts and counts the lines it holds. -/
structure IsCounted (hunk : Hunk) : Prop where
  numbered : Numbered hunk.start hunk.lines
  count_eq : hunk.count = hunk.tally

lemma IsCounted.snoc {hunk : Hunk} (h : hunk.IsCounted) (text : Text) :
    (hunk.snoc text).IsCounted := by
  constructor
  · apply h.numbered.concat
    rw [show Line.tally hunk.lines = hunk.count from h.count_eq.symm]
    exact Line.withNumbers_ofMarked _ _
  · show hunk.count + _ = Line.tally (hunk.lines ++ [_])
    rw [h.count_eq]
    exact (Line.tally_append _ _).symm

end Hunk

end DiffSieve
