import DiffSieve.Proofs.LineEnds
import DiffSieve.Proofs.Numerals
import DiffSieve.Proofs.Reader

/-!
# A rendered hunk read back

A hunk is shown by a header line, which is computed from the lines held, and by one line of text
for each of them.  `Hunk.reread` is the hunk that the reader makes of this, and `exists_place_hunk`
says that it makes it wherever it meets the lines inside a file, whatever the hunk's own header and
counts said.

Nothing depends on the contents: a mark stands before each of them, so no line of a hunk reads as
a header line, and what follows the second `@@` of the header only becomes the heading.  The one
thing that is lost is a carriage return at the end of a line.
-/

namespace DiffSieve

/-! ## The header line -/

namespace Range

/-- A numeral ends at the first character that is no decimal digit. -/
lemma numeral?_ofNat (n : Nat) {c : Char} (hc : Text.isDecimal c = false) (rest : Text) :
    numeral? (Number.ofNat n ++ c :: rest) = some (Number.ofNat n, c :: rest) := by
  have hall : ∀ d ∈ Number.ofNat n, Text.isDecimal d = true :=
    fun _ hd => Number.isDecimal_of_mem_ofNat hd
  have htake : (Number.ofNat n ++ c :: rest).takeWhile Text.isDecimal = Number.ofNat n := by
    rw [List.takeWhile_append_of_pos hall, List.takeWhile_cons_of_neg (by simp [hc]),
      List.append_nil]
  have hdrop : (Number.ofNat n ++ c :: rest).dropWhile Text.isDecimal = c :: rest := by
    rw [List.dropWhile_append_of_pos hall, List.dropWhile_cons_of_neg (by simp [hc])]
  rw [numeral?, htake, hdrop]
  split
  · next hnil => exact absurd hnil (Number.ofNat_ne_nil n)
  · rfl

lemma read?_render (start count : Nat) {c : Char} (hc : Text.isDecimal c = false) (rest : Text) :
    read? (Number.ofNat start ++ (',' :: (Number.ofNat count ++ c :: rest))) =
      some (⟨Number.ofNat start, some (Number.ofNat count)⟩, c :: rest) := by
  have hcomma : Text.after? [','] (',' :: (Number.ofNat count ++ c :: rest)) =
      some (Number.ofNat count ++ c :: rest) := rfl
  rw [read?, numeral?_ofNat start (by decide)]
  simp only [Option.bind_eq_bind, Option.bind_some, hcomma, numeral?_ofNat count hc]
  rfl

end Range

namespace Hunk

/-- What stands after the ranges in the header line of a hunk. -/
def headingTail (hunk : Hunk) : Text :=
  if hunk.heading.isEmpty then [] else ' ' :: hunk.heading

/-- The header that the rendered header line of a hunk is read as. -/
def shownHeader (hunk : Hunk) : HunkHeader where
  old := ⟨Number.ofInt hunk.start.old, some (Number.ofInt hunk.tally.old)⟩
  new := ⟨Number.ofInt hunk.start.new, some (Number.ofInt hunk.tally.new)⟩
  heading := Text.dropFinal '\r' hunk.headingTail

variable {hunk : Hunk}

lemma trim_headingTail (hunk : Hunk) : Text.trim hunk.headingTail = Text.trim hunk.heading := by
  unfold headingTail
  split
  · next h => rw [List.isEmpty_iff.1 h]
  · exact Text.trim_cons (by decide) _

lemma renderHeader_eq (hunk : Hunk) :
    hunk.renderHeader =
      ("@@ -".toList ++ Number.ofInt hunk.start.old ++ ',' :: Number.ofInt hunk.tally.old ++
        " +".toList ++ Number.ofInt hunk.start.new ++ ',' :: Number.ofInt hunk.tally.new) ++
        " @@".toList ++ hunk.headingTail := rfl

lemma dropFinal_renderHeader (hunk : Hunk) :
    Text.dropFinal '\r' hunk.renderHeader =
      "@@ -".toList ++ (Number.ofInt hunk.start.old ++ (',' :: (Number.ofInt hunk.tally.old ++
        (" +".toList ++ (Number.ofInt hunk.start.new ++ (',' :: (Number.ofInt hunk.tally.new ++
          (" @@".toList ++ Text.dropFinal '\r' hunk.headingTail)))))))) := by
  have hlead : ∀ lead : Text, (lead ++ " @@".toList).getLast? ≠ some '\r' := by simp
  rw [renderHeader_eq, Text.dropFinal_append (hlead _)]
  simp only [List.append_assoc, List.cons_append]

/-- Only the heading can lose something at the end of a header line. -/
lemma dropFinal_renderHeader_eq_self
    (h : Text.dropFinal '\r' hunk.headingTail = hunk.headingTail) :
    Text.dropFinal '\r' hunk.renderHeader = hunk.renderHeader := by
  have hlead : ∀ lead : Text, (lead ++ " @@".toList).getLast? ≠ some '\r' := by simp
  rw [renderHeader_eq, Text.dropFinal_append (hlead _), h]

/-- The ranges and the rest of a header line are told apart by what stands between them. -/
lemma ofLine?_render (a b c d : Nat) (rest : Text) :
    HunkHeader.ofLine? ("@@ -".toList ++ (Number.ofNat a ++ (',' :: (Number.ofNat b ++
        (" +".toList ++ (Number.ofNat c ++ (',' :: (Number.ofNat d ++ (" @@".toList ++ rest)))))))))
      = some ⟨⟨Number.ofNat a, some (Number.ofNat b)⟩, ⟨Number.ofNat c, some (Number.ofNat d)⟩,
        rest⟩ := by
  have hold : ∀ tail : Text,
      Range.read? (Number.ofNat a ++ (',' :: (Number.ofNat b ++ (" +".toList ++ tail)))) =
        some (⟨Number.ofNat a, some (Number.ofNat b)⟩, " +".toList ++ tail) :=
    fun tail => Range.read?_render a b (by decide) ('+' :: tail)
  have hnew : Range.read? (Number.ofNat c ++ (',' :: (Number.ofNat d ++ (" @@".toList ++ rest)))) =
        some (⟨Number.ofNat c, some (Number.ofNat d)⟩, " @@".toList ++ rest) :=
    Range.read?_render c d (by decide) ('@' :: '@' :: rest)
  unfold HunkHeader.ofLine?
  simp only [Text.after?_append, hold, hnew, Option.bind_eq_bind, Option.bind_some]
  rfl

lemma ofLine?_renderHeader (ho : 0 ≤ hunk.start.old) (hn : 0 ≤ hunk.start.new) :
    HunkHeader.ofLine? (Text.dropFinal '\r' hunk.renderHeader) = some hunk.shownHeader := by
  obtain ⟨a, ha⟩ := Int.eq_ofNat_of_zero_le ho
  obtain ⟨c, hc⟩ := Int.eq_ofNat_of_zero_le hn
  rw [dropFinal_renderHeader, shownHeader, ha, hc]
  exact ofLine?_render a _ c _ _

lemma role_renderHeader (ho : 0 ≤ hunk.start.old) (hn : 0 ≤ hunk.start.new) :
    Role.ofLine (Text.dropFinal '\r' hunk.renderHeader) = .hunk hunk.shownHeader := by
  have hline := ofLine?_renderHeader ho hn
  rw [dropFinal_renderHeader] at hline ⊢
  have hfile : ∀ tail : Text, Text.after? fileLead ("@@ -".toList ++ tail) = none := fun _ => rfl
  have hmark : ∀ tail : Text, "@@".toList.isPrefixOf ("@@ -".toList ++ tail) = true :=
    fun _ => rfl
  rw [Role.ofLine, hfile]
  simp only [hmark, hline, if_true]

/-- The hunk that the rendered header line of a hunk opens. -/
def emptied (hunk : Hunk) : Hunk where
  header := Text.dropFinal '\r' hunk.renderHeader
  heading := Text.trim hunk.heading
  start := hunk.start
  count := ⟨0, 0⟩
  declared := hunk.tally
  lines := []

/-- A header line with readable numbers opens a hunk that announces what the rendered hunk holds. -/
lemma opened_shownHeader (ho : Number.Readable hunk.start.old)
    (hn : Number.Readable hunk.start.new) (hto : Number.Readable hunk.tally.old)
    (htn : Number.Readable hunk.tally.new) :
    hunk.shownHeader.opened (Text.dropFinal '\r' hunk.renderHeader) = .ok hunk.emptied := by
  obtain ⟨a, ha, hra⟩ := ho.read_ofInt
  obtain ⟨b, hb, hrb⟩ := hto.read_ofInt
  obtain ⟨c, hc, hrc⟩ := hn.read_ofInt
  obtain ⟨d, hd, hrd⟩ := htn.read_ofInt
  have hstart : hunk.start = ⟨a, c⟩ := by rw [← ha, ← hc]
  have htally : hunk.tally = ⟨b, d⟩ := by rw [← hb, ← hd]
  have hheading : Text.trim (Text.dropFinal '\r' hunk.headingTail) = Text.trim hunk.heading := by
    rw [Text.trim_dropFinal (by decide), trim_headingTail]
  simp only [HunkHeader.opened, shownHeader, HunkHeader.declaredCount, hra, hrb, hrc, hrd, hheading]
  rw [emptied, hstart, htally]
  rfl

/-- A header line that opens a hunk has readable counts. -/
lemma readable_of_opened {line : Text} {opened : Hunk}
    (h : hunk.shownHeader.opened line = .ok opened) :
    Number.Readable hunk.tally.old ∧ Number.Readable hunk.tally.new := by
  obtain ⟨_, _, _, _, _, _, hold, hnew, _⟩ := HunkHeader.opened_eq_ok h
  exact ⟨Number.readable_of_read hold, Number.readable_of_read hnew⟩

end Hunk

/-! ## The lines -/

namespace Line

/-- The line without one carriage return at its end. -/
def chomped : Line → Line
  | context content old new => context (Text.dropFinal '\r' content) old new
  | removed content old => removed (Text.dropFinal '\r' content) old
  | added content new => added (Text.dropFinal '\r' content) new

@[simp] lemma mark_chomped (line : Line) : line.chomped.mark = line.mark := by
  cases line <;> rfl

@[simp] lemma content_chomped (line : Line) :
    line.chomped.content = Text.dropFinal '\r' line.content := by
  cases line <;> rfl

lemma dropFinal_render (line : Line) :
    Text.dropFinal '\r' line.render = line.chomped.render := by
  have hmark : [line.mark].getLast? ≠ some '\r' := by cases line <;> simp [mark]
  rw [render, render, mark_chomped, content_chomped]
  exact Text.dropFinal_append hmark line.content

/-- No line of a hunk reads as a header line. -/
lemma role_render (line : Line) : Role.ofLine line.render = .content := by
  cases line <;> rfl

lemma render_ne_noLineEndMark (line : Line) : line.render ≠ noLineEndMark := by
  intro h
  have hhead : some line.mark = some '\\' := congrArg List.head? h
  cases line <;> simp [mark] at hhead

/-- The mark tells what kind of line it is. -/
lemma ofMarked_render (numbers : Sides Int) (line : Line) :
    ofMarked numbers line.render = line.withNumbers numbers := by
  cases line <;> rfl

lemma tally_map_chomped (lines : List Line) : tally (lines.map chomped) = tally lines := by
  have hold : (isOld ∘ chomped) = isOld := by funext line; cases line <;> rfl
  have hnew : (isNew ∘ chomped) = isNew := by funext line; cases line <;> rfl
  rw [tally, List.countP_map, List.countP_map, hold, hnew, tally]

end Line

namespace Hunk

variable {hunk : Hunk}

lemma inOrder_foldl_push (texts : List Text) (hunk : Hunk) :
    (texts.foldl push hunk).inOrder = texts.foldl snoc hunk.inOrder := by
  induction texts generalizing hunk with
  | nil => rfl
  | cons text rest ih => rw [List.foldl_cons, List.foldl_cons, ih, inOrder_push]

/-- The lines of a hunk come back with the numbers of the counters. -/
lemma foldl_snoc_render (lines : List Line) (hunk : Hunk) :
    (lines.map Line.render).foldl snoc hunk =
      { hunk with
        lines := hunk.lines ++ renumber (hunk.start + hunk.count) lines
        count := hunk.count + Line.tally lines } := by
  induction lines generalizing hunk with
  | nil => simp [renumber, Line.tally_nil, Sides.add_zero]
  | cons line rest ih =>
    have hsnoc : hunk.snoc line.render =
        { hunk with
          lines := hunk.lines ++ [line.withNumbers (hunk.start + hunk.count)]
          count := hunk.count + Line.tally [line] } := by
      simp only [snoc, Line.ofMarked_render, Line.tally_withNumbers]
    rw [List.map_cons, List.foldl_cons, hsnoc, ih, renumber, Line.tally_cons line rest]
    simp only [List.append_assoc, List.singleton_append, Sides.add_assoc]

/-- Inside a hunk the reader takes rendered lines one after the other. -/
lemma readFrom_map_render (lines : List Line) (file : File) (current : Hunk)
    (rest : List Text) :
    readFrom (.hunk file current) (lines.map Line.render ++ rest) =
      readFrom (.hunk file ((lines.map Line.render).foldl push current)) rest := by
  induction lines generalizing current with
  | nil => rfl
  | cons line more ih =>
    have hrole := line.role_render
    rw [List.map_cons, List.cons_append, readFrom_cons_of_step _ (by simp [hrole]), hrole]
    show readFrom (.hunk file (if line.render = noLineEndMark then current
      else current.push line.render)) _ = _
    rw [if_neg line.render_ne_noLineEndMark, ih, List.foldl_cons]

/-- The hunk that the rendered hunk is read as. -/
def reread (hunk : Hunk) : Hunk where
  header := Text.dropFinal '\r' hunk.renderHeader
  heading := Text.trim hunk.heading
  start := hunk.start
  count := hunk.tally
  declared := hunk.tally
  lines := renumber hunk.start (hunk.lines.map Line.chomped)

/-- Whether all numbers in the header line of a hunk are read back. -/
structure ShowsReadable (hunk : Hunk) : Prop where
  start_old : Number.Readable hunk.start.old
  start_new : Number.Readable hunk.start.new
  tally_old : Number.Readable hunk.tally.old
  tally_new : Number.Readable hunk.tally.new

/-- Wherever the reader is in a file, the lines of a rendered hunk add the hunk reread. -/
lemma exists_place_hunk (h : hunk.ShowsReadable) {place : Place} {file : File}
    (hp : place.file? = some file) :
    ∃ place', Place.file? place' = some { file with hunks := file.hunks ++ [hunk.reread] } ∧
      ∀ rest, readFrom place (hunk.render.map (Text.dropFinal '\r') ++ rest) =
        readFrom place' rest := by
  have hrole := role_renderHeader h.start_old.1 h.start_new.1
  have hopen := opened_shownHeader h.start_old h.start_new h.tally_old h.tally_new
  have hlines : (hunk.lines.map Line.render).map (Text.dropFinal '\r') =
      (hunk.lines.map Line.chomped).map Line.render := by
    simp [Line.dropFinal_render]
  have hclosed : (((hunk.lines.map Line.chomped).map Line.render).foldl push hunk.emptied).inOrder =
      hunk.reread := by
    rw [inOrder_foldl_push, foldl_snoc_render, Line.tally_map_chomped]
    simp only [emptied, inOrder, reread, List.reverse_nil, List.nil_append, Sides.add_zero,
      Sides.zero_add, tally]
  refine ⟨.hunk file (((hunk.lines.map Line.chomped).map Line.render).foldl push hunk.emptied),
    ?_, ?_⟩
  · rw [← hclosed]
    rfl
  · intro rest
    rw [render, List.map_cons, hlines, List.cons_append,
      readFrom_cons_of_step _ (by simp [hrole]), hrole]
    simp only [Place.step, hp, hopen]
    exact readFrom_map_render _ _ _ _

end Hunk
end DiffSieve
