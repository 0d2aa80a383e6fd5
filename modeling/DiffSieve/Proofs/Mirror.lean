import DiffSieve.Proofs.Choice
import DiffSieve.Proofs.Imports
import DiffSieve.Proofs.Wrapping

/-!
# Hunks the other way round

A comparison read the other way round shows the same lines: what was removed is added, what was
added is removed, and the two numbers of a context line change places (`Hunk.mirror`).  Blocks stay
where they are, and so do the pairs by rank (`changePairs_mirror`).

Of two texts the detectors ask whether they are alike, and this does not depend on which of them
comes first, not even where only one of them falls into tokens.  So what a category means in a hunk
it means in the mirror of the hunk (`mem_flaggedEdits_mirror_iff`).  Semicolons are left out, since
one of them matters or not by the line after the added line.

Matching by content is led by the removed lines, but its pairs are those of lines with the same rank
among the lines that make a statement, and this has no direction (`mem_pairs_ofImports_mirror_iff`).

Each of these facts is shown one way only.  The other way follows, since the mirror of the mirror is
the hunk itself.
-/

namespace DiffSieve

open Detection

/-! ## Mirrors -/

/-- The other version. -/
def Side.other : Side → Side
  | old => new
  | new => old

/-- A line seen the other way round. -/
def Line.mirror : Line → Line
  | context content old new => context content new old
  | removed content old => added content old
  | added content new => removed content new

def Edit.mirror (edit : Edit) : Edit :=
  { edit with side := edit.side.other }

def ChangePair.mirror (pair : ChangePair) : ChangePair :=
  ⟨pair.added.mirror, pair.removed.mirror⟩

def Segment.mirror : Segment → Segment
  | context content old new => context content new old
  | block edits => block (edits.map Edit.mirror)

/-- The hunk of the comparison the other way round. -/
def Hunk.mirror (hunk : Hunk) : Hunk :=
  { hunk with
    start := hunk.start.swap
    count := hunk.count.swap
    declared := hunk.declared.swap
    lines := hunk.lines.map Line.mirror }

@[simp] lemma Side.other_other (side : Side) : side.other.other = side := by
  cases side <;> rfl

@[simp] lemma Edit.mirror_mirror (edit : Edit) : edit.mirror.mirror = edit := by
  simp [mirror]

@[simp] lemma ChangePair.mirror_mirror (pair : ChangePair) : pair.mirror.mirror = pair := by
  simp [mirror]

@[simp] lemma Line.mirror_mirror (line : Line) : line.mirror.mirror = line := by
  cases line <;> rfl

lemma map_mirror_map_mirror (lines : List Line) :
    (lines.map Line.mirror).map Line.mirror = lines := by
  simp [Function.comp_def]

/-! ## Numbers -/

lemma withNumbers_mirror (numbers : Sides Int) (line : Line) :
    line.mirror.withNumbers numbers.swap = (line.withNumbers numbers).mirror := by
  cases line <;> rfl

lemma tally_map_mirror (lines : List Line) :
    Line.tally (lines.map Line.mirror) = (Line.tally lines).swap := by
  have hold : Line.isOld ∘ Line.mirror = Line.isNew := by
    funext line
    cases line <;> rfl
  have hnew : Line.isNew ∘ Line.mirror = Line.isOld := by
    funext line
    cases line <;> rfl
  rw [Line.tally, List.countP_map, List.countP_map, hold, hnew]
  rfl

lemma renumber_mirror (next : Sides Int) (lines : List Line) :
    renumber next.swap (lines.map Line.mirror) = (renumber next lines).map Line.mirror := by
  induction lines generalizing next with
  | nil => rfl
  | cons line rest ih =>
    have hnext : next.swap + Line.tally [line.mirror] = (next + Line.tally [line]).swap := by
      rw [show [line.mirror] = [line].map Line.mirror from rfl, tally_map_mirror]
      rfl
    rw [List.map_cons, renumber, renumber, List.map_cons, hnext, ih, withNumbers_mirror]

lemma Hunk.IsCounted.mirror {hunk : Hunk} (h : hunk.IsCounted) : hunk.mirror.IsCounted where
  numbered := by
    show renumber hunk.start.swap (hunk.lines.map Line.mirror) = hunk.lines.map Line.mirror
    rw [renumber_mirror, h.numbered]
  count_eq := by
    show hunk.count.swap = Line.tally (hunk.lines.map Line.mirror)
    rw [tally_map_mirror, h.count_eq]
    rfl

/-! ## Segments -/

namespace Segment

lemma consEdit_mirror (edit : Edit) (segments : List Segment) :
    consEdit edit.mirror (segments.map mirror) = (consEdit edit segments).map mirror := by
  cases segments with
  | nil => rfl
  | cons segment rest => cases segment <;> rfl

lemma segmentsFrom_mirror (index : Nat) (lines : List Line) :
    segmentsFrom index (lines.map Line.mirror) = (segmentsFrom index lines).map mirror := by
  induction lines generalizing index with
  | nil => rfl
  | cons line rest ih =>
    have hstep : ∀ line rest, segmentsFrom index (line :: rest) =
        consLine (line, index) (segmentsFrom (index + 1) rest) := fun _ _ => rfl
    rw [List.map_cons, hstep, hstep, ih]
    cases line with
    | context content old new => rfl
    | removed content old => exact consEdit_mirror ⟨index, .old, content, old⟩ _
    | added content new => exact consEdit_mirror ⟨index, .new, content, new⟩ _

end Segment

lemma blocks_mirror (lines : List Line) :
    blocks (lines.map Line.mirror) = (blocks lines).map (List.map Edit.mirror) := by
  rw [blocks, segments, Segment.segmentsFrom_mirror, List.filterMap_map, blocks, List.map_filterMap]
  congr 1
  funext segment
  cases segment <;> rfl

lemma edits_mirror (lines : List Line) :
    edits (lines.map Line.mirror) = (edits lines).map Edit.mirror := by
  rw [edits, blocks_mirror, edits, List.map_flatten]

namespace Block

lemma removed_mirror (block : Block) :
    removed (block.map Edit.mirror) = block.added.map Edit.mirror := by
  rw [removed, List.filter_map, added]
  congr 1
  apply List.filter_congr
  intro edit _
  cases h : edit.side <;> simp [Edit.mirror, Side.other, h]

lemma added_mirror (block : Block) :
    added (block.map Edit.mirror) = block.removed.map Edit.mirror := by
  rw [added, List.filter_map, removed]
  congr 1
  apply List.filter_congr
  intro edit _
  cases h : edit.side <;> simp [Edit.mirror, Side.other, h]

lemma pairs_mirror (block : Block) :
    pairs (block.map Edit.mirror) = block.pairs.map ChangePair.mirror := by
  rw [pairs, removed_mirror, added_mirror, List.zipWith_map, pairs, List.map_zipWith,
    List.zipWith_comm]
  rfl

end Block

lemma changePairs_mirror (lines : List Line) :
    changePairs (lines.map Line.mirror) = (changePairs lines).map ChangePair.mirror := by
  rw [changePairs, blocks_mirror, List.flatMap_map, changePairs, List.map_flatMap]
  exact List.flatMap_congr fun block _ => Block.pairs_mirror block

/-! ## Questions without a direction -/

namespace Likeness

/-- The comparison of tokens has no direction, whatever answers for lines without tokens. -/
lemma sameTokens_comm (fallback : Bool) (old new : Text) :
    sameTokens fallback old new = sameTokens fallback new old := by
  unfold sameTokens
  cases Token.significantTokens old with
  | error => cases Token.significantTokens new <;> rfl
  | ok oldTokens =>
    cases Token.significantTokens new with
    | error => rfl
    | ok newTokens =>
      show (oldTokens == newTokens && old != new) = (newTokens == oldTokens && new != old)
      rw [BEq.comm, bne_comm]

lemma onlySpace_comm (old new : Text) : onlySpace old new = onlySpace new old := by
  have hwords : (!(Text.words old).isEmpty && Text.words old == Text.words new) =
      (!(Text.words new).isEmpty && Text.words new == Text.words old) := by
    by_cases h : Text.words old = Text.words new
    · rw [h]
    · rw [beq_false_of_ne h, beq_false_of_ne (Ne.symm h), Bool.and_false, Bool.and_false]
  rw [onlySpace, hwords, sameTokens_comm, onlySpace]

lemma onlyComments_comm (old new : Text) : onlyComments old new = onlyComments new old := by
  rw [onlyComments, Bool.and_comm (Dialect.isCommentLine old), bne_comm, sameTokens_comm,
    onlyComments]

lemma onlyQuotes_comm (old new : Text) : onlyQuotes old new = onlyQuotes new old := by
  rw [onlyQuotes, Bool.and_comm (!holdsInterpolation old), bne_comm, BEq.comm, onlyQuotes]

lemma onlyFinal_comm (c : Char) (old new : Text) : onlyFinal c old new = onlyFinal c new old := by
  rw [onlyFinal, bne_comm, BEq.comm, onlyFinal]

lemma onlyTrailingComma_comm (old new : Text) :
    onlyTrailingComma old new = onlyTrailingComma new old := by
  simp only [onlyTrailingComma]
  rw [Bool.or_comm, onlyFinal_comm]

end Likeness

namespace Detection

lemma isRewrapped_comm (old new : Text) : isRewrapped old new = isRewrapped new old := by
  unfold isRewrapped
  rw [bne_comm]
  cases wrapTokens old with
  | error => cases wrapTokens new <;> rfl
  | ok oldTokens =>
    cases wrapTokens new with
    | error => rfl
    | ok newTokens =>
      have hsame : (oldTokens == newTokens) = (newTokens == oldTokens) := BEq.comm
      exact congrArg (_ && ·) hsame

end Detection

/-! ## What is flagged in a mirror -/

namespace Detection

variable {dialect : Dialect} {lines : List Line} {category : Category}

lemma pairTest_mirror (h : category ≠ .semicolon) (pair : ChangePair) :
    pairTest (lines.map Line.mirror) category pair.mirror = pairTest lines category pair := by
  cases category with
  | whitespace => exact Likeness.onlySpace_comm _ _
  | comment => exact Likeness.onlyComments_comm _ _
  | quote => exact Likeness.onlyQuotes_comm _ _
  | trailingComma => exact Likeness.onlyTrailingComma_comm _ _
  | semicolon => exact absurd rfl h
  | importOrder | lineWrap => rfl

lemma editTest_mirror (category : Category) (edit : Edit) :
    editTest category edit.mirror = editTest category edit := by
  cases category <;> rfl

lemma map_content_mirror (edits : List Edit) :
    (edits.map Edit.mirror).map Edit.content = edits.map Edit.content := by
  rw [List.map_map]
  rfl

lemma isTwoSided_mirror (block : Block) :
    Block.isTwoSided (block.map Edit.mirror) = block.isTwoSided := by
  rw [Block.isTwoSided, Block.removed_mirror, Block.added_mirror, List.isEmpty_map,
    List.isEmpty_map, Bool.and_comm, Block.isTwoSided]

lemma isReordering_mirror (dialect : Dialect) (block : Block) :
    isReordering dialect (block.map Edit.mirror) = isReordering dialect block := by
  have hstatements : ∀ edits : List Edit, (edits.map Edit.mirror).map (Text.trim ·.content) =
      edits.map (Text.trim ·.content) := by
    intro edits
    rw [List.map_map]
    rfl
  have hperm : ∀ first second : List Text, first.isPerm second = second.isPerm first := by
    intro first second
    rw [Bool.eq_iff_iff, List.isPerm_iff, List.isPerm_iff]
    exact List.perm_comm
  rw [isReordering, List.all_map, isTwoSided_mirror, Block.removed_mirror, Block.added_mirror,
    hstatements, hstatements, hperm, isReordering]
  rfl

lemma isRewrapping_mirror (block : Block) :
    isRewrapping (block.map Edit.mirror) = isRewrapping block := by
  have hjoined : ∀ edits : List Edit, joined (edits.map Edit.mirror) = joined edits := by
    intro edits
    rw [joined, map_content_mirror, joined]
  rw [isRewrapping, isTwoSided_mirror, Block.removed_mirror, Block.added_mirror, hjoined, hjoined,
    isRewrapped_comm, isRewrapping]

lemma blockTest_mirror (dialect : Dialect) (category : Category) (block : Block) :
    blockTest dialect category (block.map Edit.mirror) = blockTest dialect category block := by
  cases category with
  | importOrder => simp only [blockTest, isReordering_mirror]
  | lineWrap => simp only [blockTest, isRewrapping_mirror]
  | _ => rfl

/-- What a category means in a hunk it means in the mirrored one. -/
lemma mirror_mem_flaggedEdits (h : category ≠ .semicolon) {edit : Edit}
    (he : edit ∈ flaggedEdits dialect lines category) :
    edit.mirror ∈ flaggedEdits dialect (lines.map Line.mirror) category := by
  rw [mem_flaggedEdits, changePairs_mirror, edits_mirror, blocks_mirror]
  rcases mem_flaggedEdits.1 he with ⟨pair, hp, htest, heq⟩ | ⟨hmem, htest⟩ | ⟨block, hb, htest, hin⟩
  · refine .inl ⟨pair.mirror, List.mem_map_of_mem hp, (pairTest_mirror h pair).trans htest, ?_⟩
    rcases heq with rfl | rfl
    · exact .inr rfl
    · exact .inl rfl
  · exact .inr (.inl ⟨List.mem_map_of_mem hmem, (editTest_mirror category edit).trans htest⟩)
  · refine .inr (.inr ⟨_, List.mem_map_of_mem hb, ?_, List.mem_map_of_mem hin⟩)
    exact (blockTest_mirror dialect category block).trans htest

lemma mem_flaggedEdits_mirror_iff (h : category ≠ .semicolon) {edit : Edit} :
    edit ∈ flaggedEdits dialect (lines.map Line.mirror) category ↔
      edit.mirror ∈ flaggedEdits dialect lines category := by
  constructor
  · intro he
    have hback := mirror_mem_flaggedEdits h he
    rwa [map_mirror_map_mirror] at hback
  · intro he
    have hback := mirror_mem_flaggedEdits h he
    rwa [Edit.mirror_mirror] at hback

lemma flagged_mirror (h : category ≠ .semicolon) (dialect : Dialect) (lines : List Line) :
    (ofCategory dialect (lines.map Line.mirror) (changePairs (lines.map Line.mirror))
      category).flagged = (ofCategory dialect lines (changePairs lines) category).flagged.swap := by
  apply Sides.eq_of_at
  intro side
  have hswap : ∀ s : Sides NumberSet, s.swap.at side = s.at side.other := by
    intro s
    cases side <;> rfl
  apply NumberSet.eq_of_mem_iff
  intro n
  rw [hswap, flagged_ofCategory, flagged_ofCategory, Flags.mem_numbers, Flags.mem_numbers]
  constructor
  · rintro ⟨edit, he, rfl, rfl⟩
    exact ⟨edit.mirror, (mem_flaggedEdits_mirror_iff h).1 he, rfl, rfl⟩
  · rintro ⟨edit, he, hside, rfl⟩
    refine ⟨edit.mirror, (mem_flaggedEdits_mirror_iff h).2 (edit.mirror_mirror.symm ▸ he), ?_, rfl⟩
    show edit.side.other = side
    rw [hside, Side.other_other]

lemma making_mirror (statement : Text) (edits : List Edit) :
    making statement (edits.map Edit.mirror) = (making statement edits).map Edit.mirror :=
  List.filter_map

lemma mirror_mem_pairs_ofImports {pair : ChangePair}
    (h : pair ∈ (ofImports dialect lines).pairs) :
    pair.mirror ∈ (ofImports dialect (lines.map Line.mirror)).pairs := by
  obtain ⟨block, hb, htest, hp⟩ := mem_pairs_ofImports.1 h
  obtain ⟨statement, k, hr, ha⟩ := mem_matchStatements_iff.1 hp
  rw [mem_pairs_ofImports, blocks_mirror]
  refine ⟨_, List.mem_map_of_mem hb, (blockTest_mirror dialect _ block).trans htest, ?_⟩
  rw [Block.removed_mirror, Block.added_mirror, mem_matchStatements_iff]
  refine ⟨statement, k, ?_, ?_⟩
  · rw [making_mirror, List.getElem?_map, ha]
    rfl
  · rw [making_mirror, List.getElem?_map, hr]
    rfl

lemma mem_pairs_ofImports_mirror_iff {pair : ChangePair} :
    pair ∈ (ofImports dialect (lines.map Line.mirror)).pairs ↔
      pair.mirror ∈ (ofImports dialect lines).pairs := by
  constructor
  · intro hp
    have hback := mirror_mem_pairs_ofImports hp
    rwa [map_mirror_map_mirror] at hback
  · intro hp
    have hback := mirror_mem_pairs_ofImports hp
    rwa [ChangePair.mirror_mirror] at hback

end Detection

/-- Let a hunk be mirrored: each removed line becomes an added one and each added line a removed
one, and the numbers and starts of the two versions change places.  If the hunk was counted as the
reader counts, then so is its mirror.  Every detector but the one of semicolons flags in the mirror
what it flags in the hunk, with the versions exchanged, and the pairs of the detector of reordered
imports are exchanged too. -/
theorem detection_is_direction_blind (hunk : Hunk) (dialect : Dialect) :
    let detected (hunk : Hunk) := ofCategory dialect hunk.lines (changePairs hunk.lines)
    (hunk.IsCounted → hunk.mirror.IsCounted) ∧
    (∀ category, category ≠ .semicolon →
      (detected hunk.mirror category).flagged = (detected hunk category).flagged.swap) ∧
    ∀ pair, pair ∈ (detected hunk.mirror .importOrder).pairs ↔
      pair.mirror ∈ (detected hunk .importOrder).pairs := by
  intro detected
  refine ⟨Hunk.IsCounted.mirror, ?_, ?_⟩
  · exact fun category h => flagged_mirror h dialect hunk.lines
  · exact fun pair => mem_pairs_ofImports_mirror_iff

/-- The call that was wrapped over three lines is joined again, and the imports are matched the
other way round. -/
theorem mirror_of_wrapHunk :
    (ofCategory .script wrapHunk.mirror.lines (changePairs wrapHunk.mirror.lines)
      .lineWrap).flagged = ⟨.ofList [1, 2, 3], .ofList [1, 2]⟩ ∧
    ⟨⟨1, .old, "import a".toList, 7⟩, ⟨2, .new, "import a".toList, 8⟩⟩ ∈
      (ofCategory .script importHunk.mirror.lines (changePairs importHunk.mirror.lines)
        .importOrder).pairs := by
  obtain ⟨-, hflagged, -⟩ := detection_is_direction_blind wrapHunk .script
  obtain ⟨-, -, hpairs⟩ := detection_is_direction_blind importHunk .script
  refine ⟨(hflagged .lineWrap (by decide)).trans (by decide +kernel), ?_⟩
  exact (hpairs _).2 (by decide +kernel)

end DiffSieve
