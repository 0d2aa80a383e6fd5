import DiffSieve.Proofs.Survivors
import Mathlib.Data.List.Forall2

/-!
# Blocks, and the line after each

A detector sees of a block the versions and contents of its lines, and of each line the content of
the line after it.  `Edit.view` is what it sees of one line.  What it sees of a block does not
depend on where the hunk begins, on how it is numbered or on what stands before the block: it is
given by the block itself and the content of the line after it (`map_view_of_mem_withNext`), and
lines that show the same marks and contents fall into segments that are alike
(`forall₂_like_segmentsFrom`).

Segments alternate, so no block stands next to another one.  What is left of a hunk is what is left
of its segments, and the lines that take the place of a block therefore stand between context lines
or at an end of the hunk (`Flags.StandsFor`).
-/

namespace DiffSieve

/-- What is seen of a changed line in a hunk: its version, its content, and the content of the next
line. -/
def Edit.view (lines : List Line) (edit : Edit) : Side × Text × Option Text :=
  (edit.side, edit.content, Detection.contentAfter lines edit.index)

/-- The versions and contents of the lines of a block. -/
def Block.shape (block : Block) : List (Side × Text) :=
  block.map fun edit => (edit.side, edit.content)

/-- What is seen of the lines of a block before a line of the given content. -/
def Block.views : Block → Option Text → List (Side × Text × Option Text)
  | [], _ => []
  | edit :: rest, next =>
    (edit.side, edit.content, (rest.head?.map Edit.content).or next) :: views rest next

namespace Segment

/-! ## Segments alternate -/

/-- Whether no block is empty and none comes right after another one. -/
inductive Alternating : List Segment → Prop where
  | nil : Alternating []
  | context {content : Text} {old new : Int} {segments : List Segment}
      (h : Alternating segments) : Alternating (context content old new :: segments)
  | block {edits : Block} {segments : List Segment} (he : edits ≠ [])
      (hs : ∀ next ∈ segments.head?, next.block? = none) (h : Alternating segments) :
      Alternating (block edits :: segments)

lemma Alternating.consEdit {segments : List Segment} (h : Alternating segments) (edit : Edit) :
    Alternating (consEdit edit segments) := by
  cases h with
  | nil => exact .block (List.cons_ne_nil _ _) (by simp) .nil
  | context h =>
    refine .block (List.cons_ne_nil _ _) ?_ (.context h)
    rintro _ ⟨⟩
    rfl
  | block he hs h => exact .block (List.cons_ne_nil _ _) hs h

lemma Alternating.tail {segment : Segment} {segments : List Segment}
    (h : Alternating (segment :: segments)) : Alternating segments := by
  cases h with
  | context h => exact h
  | block _ _ h => exact h

lemma Alternating.of_append {before after : List Segment} (h : Alternating (before ++ after)) :
    Alternating after := by
  induction before with
  | nil => exact h
  | cons segment rest ih => exact ih h.tail

/-- No block stands next to another one. -/
lemma Alternating.beside {before after : List Segment} {edits : Block}
    (h : Alternating (before ++ .block edits :: after)) :
    (∀ last ∈ before.getLast?, last.block? = none) ∧
      ∀ next ∈ after.head?, next.block? = none := by
  induction before with
  | nil =>
    cases h with
    | block _ hnext _ => exact ⟨by simp, hnext⟩
  | cons segment rest ih =>
    obtain ⟨hlast, hnext⟩ := ih h.tail
    refine ⟨?_, hnext⟩
    cases rest with
    | nil =>
      rintro _ ⟨⟩
      cases h with
      | context => rfl
      | block _ hs _ => cases hs _ rfl
    | cons other more => simpa using hlast

lemma alternating_segmentsFrom (index : Nat) (lines : List Line) :
    Alternating (segmentsFrom index lines) := by
  induction lines generalizing index with
  | nil => exact .nil
  | cons line rest ih =>
    have hrest := ih (index + 1)
    cases line with
    | context content old new => exact .context hrest
    | removed content old => exact hrest.consEdit _
    | added content new => exact hrest.consEdit _

/-! ## The line after a block -/

/-- The content of the first line of some segments. -/
def firstContent (segments : List Segment) : Option Text :=
  (segments.flatMap toLines).head?.map Line.content

/-- The blocks among some segments, each with the content of the line after it. -/
def withNext : List Segment → List (Block × Option Text)
  | [] => []
  | context .. :: rest => withNext rest
  | block edits :: rest => (edits, firstContent rest) :: withNext rest

lemma map_fst_withNext (segments : List Segment) :
    (withNext segments).map Prod.fst = segments.filterMap block? := by
  induction segments with
  | nil => rfl
  | cons segment rest ih =>
    cases segment with
    | context => exact ih
    | block edits => exact congrArg (edits :: ·) ih

lemma firstContent_block (edits : Block) (segments : List Segment) :
    firstContent (block edits :: segments) =
      (edits.head?.map Edit.content).or (firstContent segments) := by
  cases edits with
  | nil => rfl
  | cons edit rest => exact congrArg some edit.content_toLine

/-- An edit that is seen before the line that follows it keeps what is seen of its block. -/
lemma map_view_of_mem_withNext_consEdit {lines : List Line} {edit : Edit}
    {segments : List Segment}
    (hview : edit.view lines = (edit.side, edit.content, firstContent segments))
    (h : ∀ pair ∈ withNext segments, pair.1.map (Edit.view lines) = Block.views pair.1 pair.2) :
    ∀ pair ∈ withNext (consEdit edit segments),
      pair.1.map (Edit.view lines) = Block.views pair.1 pair.2 := by
  intro pair hp
  unfold consEdit at hp
  split at hp
  · next edits more =>
    rcases List.mem_cons.1 hp with rfl | hp
    · have hedits := h (edits, firstContent more) List.mem_cons_self
      rw [List.map_cons, hview, hedits, firstContent_block]
      rfl
    · exact h pair (List.mem_cons_of_mem _ hp)
  · rcases List.mem_cons.1 hp with rfl | hp
    · rw [List.map_cons, hview]
      rfl
    · exact h pair hp

/-- What is seen of a block is settled by the block and the line after it. -/
lemma map_view_of_mem_withNext {index : Nat} {lines rest : List Line}
    (h : lines.drop index = rest) :
    ∀ pair ∈ withNext (segmentsFrom index rest),
      pair.1.map (Edit.view lines) = Block.views pair.1 pair.2 := by
  induction rest generalizing index with
  | nil =>
    intro pair hp
    cases hp
  | cons line rest ih =>
    have hdrop : lines.drop (index + 1) = rest := by
      rw [← List.drop_drop, h]
      rfl
    have hnext : Detection.contentAfter lines index =
        firstContent (segmentsFrom (index + 1) rest) := by
      rw [firstContent, flatMap_toLines_segmentsFrom, ← hdrop, List.head?_drop]
      rfl
    have hview : ∀ edit : Edit, edit.index = index → edit.view lines =
        (edit.side, edit.content, firstContent (segmentsFrom (index + 1) rest)) := by
      intro edit hindex
      rw [Edit.view, hindex, hnext]
    cases line with
    | context content old new => exact ih hdrop
    | removed content old => exact map_view_of_mem_withNext_consEdit (hview _ rfl) (ih hdrop)
    | added content new => exact map_view_of_mem_withNext_consEdit (hview _ rfl) (ih hdrop)

/-! ## Segments that show the same -/

/-- Whether two segments show the same marks and contents. -/
inductive Like : Segment → Segment → Prop where
  | context {content : Text} {old new old' new' : Int} :
      Like (context content old new) (context content old' new')
  | block {edits edits' : Block} (h : edits.shape = edits'.shape) :
      Like (block edits) (block edits')

/-- A line that shows what an edit shows joins the segments as such an edit. -/
lemma exists_consLine_eq {line : Line} {edit : Edit} (index : Nat)
    (h : (line.mark, line.content) = (edit.toLine.mark, edit.toLine.content)) :
    ∃ edit' : Edit, (edit'.side, edit'.content) = (edit.side, edit.content) ∧
      ∀ segments, consLine (line, index) segments = consEdit edit' segments := by
  rw [edit.content_toLine, Edit.toLine] at h
  obtain ⟨hmark, hcontent⟩ := Prod.mk.inj h
  cases hside : edit.side with
  | old =>
    rw [hside] at hmark
    cases line with
    | removed content old =>
      exact ⟨⟨index, .old, content, old⟩, Prod.ext rfl hcontent, fun _ => rfl⟩
    | context | added => simp [Line.mark] at hmark
  | new =>
    rw [hside] at hmark
    cases line with
    | added content new =>
      exact ⟨⟨index, .new, content, new⟩, Prod.ext rfl hcontent, fun _ => rfl⟩
    | context | removed => simp [Line.mark] at hmark

/-- One more edit at the head of a block. -/
lemma forall₂_like_consEdit {edit edit' : Edit} {more : Block} {segments segments' : List Segment}
    (he : (edit'.side, edit'.content) = (edit.side, edit.content))
    (hs : ∀ next ∈ segments.head?, next.block? = none)
    (h : List.Forall₂ Like (if more = [] then segments else block more :: segments) segments') :
    List.Forall₂ Like (block (edit :: more) :: segments) (consEdit edit' segments') := by
  by_cases hmore : more = []
  · subst hmore
    rw [if_pos rfl] at h
    have hlike : Like (block [edit]) (block [edit']) :=
      .block (congrArg (fun shown => [shown]) he.symm)
    cases h with
    | nil => exact .cons hlike .nil
    | cons hfirst hrest =>
      cases hfirst with
      | context => exact .cons hlike (.cons .context hrest)
      | @block edits => cases hs (block edits) rfl
  · rw [if_neg hmore] at h
    cases h with
    | cons hfirst hrest =>
      cases hfirst with
      | @block _ edits' hshape =>
        refine .cons (.block ?_) hrest
        show (edit.side, edit.content) :: more.shape = (edit'.side, edit'.content) :: edits'.shape
        rw [he, hshape]

/-- Lines that show what some alternating segments show fall into segments like these. -/
lemma forall₂_like_segmentsFrom {segments : List Segment} (h : Alternating segments) {index : Nat}
    {lines : List Line}
    (hl : lines.map (fun line => (line.mark, line.content)) =
      (segments.flatMap toLines).map fun line => (line.mark, line.content)) :
    List.Forall₂ Like segments (segmentsFrom index lines) := by
  induction lines generalizing segments index with
  | nil =>
    cases h with
    | nil => exact .nil
    | context h => cases hl
    | @block edits _ he hs h =>
      obtain ⟨edit, more, rfl⟩ := List.exists_cons_of_ne_nil he
      cases hl
  | cons line rest ih =>
    cases h with
    | nil => cases hl
    | context h =>
      obtain ⟨hline, hrest⟩ := List.cons_eq_cons.1 hl
      cases line with
      | context content old new =>
        obtain ⟨-, rfl⟩ := Prod.mk.inj hline
        exact .cons .context (ih h hrest)
      | removed | added => simp [Line.mark] at hline
    | @block edits segments he hs h =>
      obtain ⟨edit, more, rfl⟩ := List.exists_cons_of_ne_nil he
      obtain ⟨hline, hrest⟩ := List.cons_eq_cons.1 hl
      obtain ⟨edit', hedit', hcons⟩ := exists_consLine_eq index hline
      have hstep : segmentsFrom index (line :: rest) =
          consLine (line, index) (segmentsFrom (index + 1) rest) := rfl
      rw [hstep, hcons]
      refine forall₂_like_consEdit hedit' hs ?_
      split
      · next hmore =>
        subst hmore
        exact ih h hrest
      · next hmore => exact ih (.block hmore hs h) hrest

lemma head?_content_of_shape {edits edits' : Block} (h : edits.shape = edits'.shape) :
    edits.head?.map Edit.content = edits'.head?.map Edit.content := by
  have hhead := congrArg (fun shown : List (Side × Text) => shown.head?.map Prod.snd) h
  simpa [Block.shape, Function.comp_def] using hhead

lemma firstContent_of_like {segments segments' : List Segment}
    (h : List.Forall₂ Like segments segments') :
    firstContent segments = firstContent segments' := by
  induction h with
  | nil => rfl
  | cons hfirst _ ih =>
    cases hfirst with
    | context => rfl
    | block hshape => rw [firstContent_block, firstContent_block, head?_content_of_shape hshape, ih]

lemma views_of_shape {edits edits' : Block} (h : edits.shape = edits'.shape)
    (next : Option Text) : Block.views edits next = Block.views edits' next := by
  induction edits generalizing edits' with
  | nil => rw [List.map_eq_nil_iff.1 h.symm]
  | cons edit rest ih =>
    cases edits' with
    | nil => cases h
    | cons edit' rest' =>
      obtain ⟨hedit, hrest⟩ := List.cons_eq_cons.1 h
      obtain ⟨hside, hcontent⟩ := Prod.mk.inj hedit
      rw [Block.views, Block.views, hside, hcontent, head?_content_of_shape hrest, ih hrest]

lemma exists_views_of_like {segments segments' : List Segment}
    (h : List.Forall₂ Like segments segments') :
    ∀ pair' ∈ withNext segments', ∃ pair ∈ withNext segments,
      Block.views pair.1 pair.2 = Block.views pair'.1 pair'.2 := by
  induction h with
  | nil =>
    intro pair' hp
    cases hp
  | cons hfirst hrest ih =>
    cases hfirst with
    | context => exact ih
    | block hshape =>
      intro pair' hp
      rcases List.mem_cons.1 hp with rfl | hp
      · refine ⟨_, List.mem_cons_self, ?_⟩
        rw [firstContent_of_like hrest, views_of_shape hshape]
      · obtain ⟨pair, hmem, hviews⟩ := ih pair' hp
        exact ⟨pair, List.mem_cons_of_mem _ hmem, hviews⟩

end Segment

/-- If lines show what some alternating segments show, then every block of the lines is seen as one
of the segments is. -/
lemma exists_views_of_mem_blocks {shown : List Segment} (h : Segment.Alternating shown)
    {lines : List Line}
    (hl : lines.map (fun line => (line.mark, line.content)) =
      (shown.flatMap Segment.toLines).map fun line => (line.mark, line.content))
    {block : Block} (hb : block ∈ blocks lines) :
    ∃ pair ∈ Segment.withNext shown, Block.views pair.1 pair.2 = block.map (Edit.view lines) := by
  rw [blocks, segments, ← Segment.map_fst_withNext] at hb
  obtain ⟨pair', hp', rfl⟩ := List.mem_map.1 hb
  obtain ⟨pair, hp, hviews⟩ :=
    Segment.exists_views_of_like (Segment.forall₂_like_segmentsFrom h hl) pair' hp'
  exact ⟨pair, hp, hviews.trans (Segment.map_view_of_mem_withNext List.drop_zero pair' hp').symm⟩

/-! ## What stands in the place of a block -/

/-- Whether `shown` stands in the place of a block among the lines left of a hunk: before it stands
what is left of the segments before the block, and after it what is left of those after the block.
A segment next to the block is a context line, and such a line is left as it is. -/
def Flags.StandsFor (flags : Flags) (lines left : List Line) (block : Block)
    (shown : List Line) : Prop :=
  ∃ before after, segments lines = before ++ .block block :: after ∧
    (∀ last ∈ before.getLast?, last.block? = none) ∧
    (∀ next ∈ after.head?, next.block? = none) ∧
    left = before.flatMap flags.stripSegment ++ shown ++ after.flatMap flags.stripSegment

lemma Flags.standsFor_stripBlock (flags : Flags) {lines : List Line} {block : Block}
    (hb : block ∈ DiffSieve.blocks lines) :
    flags.StandsFor lines (flags.stripLines lines) block (flags.stripBlock block) := by
  obtain ⟨before, after, hs⟩ := List.append_of_mem (mem_blocks.1 hb)
  have halternating := Segment.alternating_segmentsFrom 0 lines
  rw [← segments, hs] at halternating
  obtain ⟨hlast, hnext⟩ := halternating.beside
  refine ⟨before, after, hs, hlast, hnext, ?_⟩
  rw [stripLines, hs, List.flatMap_append, List.flatMap_cons, stripSegment, List.append_assoc]

/-- In a hunk that is left, what becomes of a block stands in its place. -/
lemma Hunk.standsFor_of_sieve {hunk left : Hunk} {found : List Finding}
    (h : (hunk.sieve found).hunk = some left) {block : Block} (hb : block ∈ blocks hunk.lines) :
    (hunk.flags found).StandsFor hunk.lines left.lines block
      ((hunk.flags found).stripBlock block) := by
  rw [lines_of_sieve h]
  exact Flags.standsFor_stripBlock _ hb

end DiffSieve
