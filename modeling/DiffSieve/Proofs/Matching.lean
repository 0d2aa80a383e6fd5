import DiffSieve.Proofs.Blocks
import DiffSieve.Proofs.Stripping
import Mathlib.Data.List.Nodup

/-!
# Blocks and pairs by their places

The segments of a hunk tile its lines: each begins where the one before it ends
(`placedFrom_segmentsFrom`).  Together with the rule that no block stands next to another one, this
says what a block is without the function that finds it: the changed lines from one place on up to a
context line or the end of the hunk, with a context line or the beginning of the hunk before it
(`Block.RunsFrom`).

The pairs of a hunk are then known by rank alone.  They ascend with the blocks, on either side of
the pairs, and the lines of a block that no pair takes are those of the longer side whose rank
the shorter side does not reach.
-/

namespace DiffSieve

/-! ## Segments tile the lines -/

namespace Segment

/-- Whether each of some segments begins where the one before it ends, the first of them at the
given place, and the edits of a block stand at consecutive places. -/
inductive PlacedFrom : Nat → List Segment → Prop where
  | nil {index : Nat} : PlacedFrom index []
  | context {index : Nat} {content : Text} {old new : Int} {segments : List Segment}
      (h : PlacedFrom (index + 1) segments) :
      PlacedFrom index (context content old new :: segments)
  | block {index : Nat} {edits : Block} {segments : List Segment}
      (he : edits.map Edit.index = List.range' index edits.length)
      (h : PlacedFrom (index + edits.length) segments) :
      PlacedFrom index (block edits :: segments)

lemma PlacedFrom.consEdit {index : Nat} {edit : Edit} {segments : List Segment}
    (h : PlacedFrom (index + 1) segments) (hindex : edit.index = index) :
    PlacedFrom index (consEdit edit segments) := by
  subst hindex
  cases h with
  | nil => exact .block rfl .nil
  | context h => exact .block rfl (.context h)
  | @block _ edits segments he h =>
    refine .block ?_ ?_
    · rw [List.map_cons, he, List.length_cons, List.range'_succ]
    · rw [List.length_cons, Nat.add_comm edits.length, ← Nat.add_assoc]
      exact h

lemma placedFrom_segmentsFrom (index : Nat) (lines : List Line) :
    PlacedFrom index (segmentsFrom index lines) := by
  induction lines generalizing index with
  | nil => exact .nil
  | cons line rest ih =>
    have hrest := ih (index + 1)
    cases line with
    | context content old new => exact .context hrest
    | removed content old => exact hrest.consEdit rfl
    | added content new => exact hrest.consEdit rfl

lemma PlacedFrom.of_append {before after : List Segment} {index : Nat}
    (h : PlacedFrom index (before ++ after)) :
    PlacedFrom (index + (before.flatMap toLines).length) after := by
  induction before generalizing index with
  | nil => exact h
  | cons segment rest ih =>
    rw [List.flatMap_cons, List.length_append, ← Nat.add_assoc]
    cases h with
    | context h => exact ih h
    | block he h =>
      have hlater := ih h
      rwa [toLines, List.length_map]

/-- What is no block shows one line, and that is a context line. -/
lemma exists_of_block?_eq_none {segment : Segment} (h : segment.block? = none) :
    ∃ line, segment.toLines = [line] ∧ line.isContext = true := by
  cases segment with
  | context content old new => exact ⟨_, rfl, rfl⟩
  | block edits => cases h

/-- If the last of some segments is no block, the last of their lines is a context line. -/
lemma exists_last_line {before : List Segment}
    (h : ∀ segment ∈ before.getLast?, segment.block? = none) {i : Nat}
    (hi : i + 1 = (before.flatMap toLines).length) (lines : List Line) :
    ∃ line, (before.flatMap toLines ++ lines)[i]? = some line ∧ line.isContext = true := by
  rcases List.eq_nil_or_concat before with rfl | ⟨first, segment, rfl⟩
  · cases hi
  · obtain ⟨line, hshown, hcontext⟩ := exists_of_block?_eq_none (h segment (by simp))
    rw [List.concat_eq_append, List.flatMap_append, List.flatMap_singleton, hshown] at hi ⊢
    rw [List.length_append, List.length_singleton] at hi
    refine ⟨line, ?_, hcontext⟩
    rw [List.append_assoc, Nat.add_right_cancel hi, List.getElem?_append_right Nat.le.refl,
      Nat.sub_self]
    rfl

/-- If the first of some segments is no block, the first of their lines is a context line. -/
lemma isContext_of_head? {after : List Segment}
    (h : ∀ segment ∈ after.head?, segment.block? = none) {line : Line}
    (hline : (after.flatMap toLines).head? = some line) : line.isContext = true := by
  cases after with
  | nil => cases hline
  | cons segment rest =>
    obtain ⟨first, hshown, hcontext⟩ := exists_of_block?_eq_none (h segment rfl)
    rw [List.flatMap_cons, hshown] at hline
    obtain rfl := Option.some.inj hline
    exact hcontext

end Segment

/-! ## Blocks -/

/-- Whether a block holds the changed lines of a hunk from one place on, and is bounded on both
sides by a context line or an end of the hunk. -/
structure Block.RunsFrom (start : Nat) (lines : List Line) (block : Block) : Prop where
  nonempty : block ≠ []
  index : block.map Edit.index = List.range' start block.length
  before : ∀ i, i + 1 = start → ∃ line, lines[i]? = some line ∧ line.isContext = true
  after : ∀ line, lines[start + block.length]? = some line → line.isContext = true

lemma exists_runsFrom {lines : List Line} {block : Block} (hb : block ∈ blocks lines) :
    ∃ start, block.RunsFrom start lines := by
  obtain ⟨before, after, hsegments⟩ := List.append_of_mem (mem_blocks.1 hb)
  have halternate : Segment.Alternating (before ++ .block block :: after) :=
    hsegments ▸ Segment.alternating_segmentsFrom 0 lines
  have hplaced : Segment.PlacedFrom 0 (before ++ .block block :: after) :=
    hsegments ▸ Segment.placedFrom_segmentsFrom 0 lines
  have hlines : before.flatMap Segment.toLines ++
      (block.map Edit.toLine ++ after.flatMap Segment.toLines) = lines := by
    have htile := Segment.flatMap_toLines_segmentsFrom 0 lines
    rwa [← segments, hsegments, List.flatMap_append, List.flatMap_cons] at htile
  obtain ⟨hlast, hnext⟩ := halternate.beside
  have hhere := hplaced.of_append
  rw [Nat.zero_add] at hhere
  refine ⟨(before.flatMap Segment.toLines).length, ?_, ?_, ?_, ?_⟩
  · cases halternate.of_append with
    | block he _ _ => exact he
  · cases hhere with
    | block hindex _ => exact hindex
  · intro i hi
    rw [← hlines]
    exact Segment.exists_last_line hlast hi _
  · intro line hline
    rw [← hlines, List.getElem?_append_right (Nat.le_add_right _ _), Nat.add_sub_cancel_left,
      List.getElem?_append_right (by simp), List.length_map, Nat.sub_self,
      ← List.head?_eq_getElem?] at hline
    exact Segment.isContext_of_head? hnext hline

/-- The edits of some lines are its changed lines, each with its own place. -/
lemma map_editsFrom (index : Nat) (lines : List Line) :
    (editsFrom index lines).map (fun edit => (edit.toLine, edit.index)) =
      (lines.zipIdx index).filter (!·.1.isContext) := by
  induction lines generalizing index with
  | nil => rfl
  | cons line rest ih =>
    rw [editsFrom_cons, List.map_append, ih, List.zipIdx_cons]
    cases line <;> rfl

/-- No context line stands between two lines of one block. -/
lemma not_isContext_of_between {lines : List Line} {block : Block} (hb : block ∈ blocks lines)
    {first last : Edit} (hf : first ∈ block) (hl : last ∈ block) {i : Nat} {line : Line}
    (hfi : first.index ≤ i) (hil : i ≤ last.index) (hline : lines[i]? = some line) :
    line.isContext = false := by
  obtain ⟨start, hrun⟩ := exists_runsFrom hb
  have hplace (edit : Edit) (he : edit ∈ block) :
      start ≤ edit.index ∧ edit.index < start + block.length := by
    have hmem : edit.index ∈ List.range' start block.length :=
      hrun.index ▸ List.mem_map_of_mem he
    exact List.mem_range'_1.1 hmem
  have hi : i ∈ block.map Edit.index := by
    rw [hrun.index, List.mem_range'_1]
    have hfirst := hplace first hf
    have hlast := hplace last hl
    omega
  obtain ⟨edit, he, rfl⟩ := List.mem_map.1 hi
  obtain ⟨j, hj, hedit⟩ := getElem?_of_mem_editsFrom (mem_edits.2 ⟨block, hb, he⟩)
  obtain rfl : edit.index = j := by omega
  obtain rfl := Option.some.inj (hline.symm.trans hedit)
  exact edit.isContext_toLine

/-! ## Pairs -/

/-- Pieces of the blocks, one of each, ascend with the blocks. -/
lemma pairwise_index_flatMap (lines : List Line) {piece : Block → List Edit}
    (h : ∀ block, (piece block).Sublist block) :
    ((blocks lines).flatMap piece).Pairwise (·.index < ·.index) := by
  have hpieces (all : List Block) : (all.flatMap piece).Sublist all.flatten := by
    induction all with
    | nil => exact .slnil
    | cons block rest ih => exact (h block).append ih
  exact (pairwise_index_editsFrom 0 lines).sublist (hpieces (blocks lines))

lemma Block.map_removed_pairs (block : Block) :
    block.pairs.map ChangePair.removed = block.removed.take block.added.length :=
  map_removed_zipWith _ _

lemma Block.map_added_pairs (block : Block) :
    block.pairs.map ChangePair.added = block.added.take block.removed.length :=
  map_added_zipWith _ _

lemma Block.map_removed_pairs_sublist (block : Block) :
    (block.pairs.map ChangePair.removed).Sublist block := by
  rw [map_removed_pairs]
  exact (List.take_sublist _ _).trans List.filter_sublist

lemma Block.map_added_pairs_sublist (block : Block) :
    (block.pairs.map ChangePair.added).Sublist block := by
  rw [map_added_pairs]
  exact (List.take_sublist _ _).trans List.filter_sublist

lemma mem_changePairs_iff {lines : List Line} {pair : ChangePair} :
    pair ∈ changePairs lines ↔ ∃ block ∈ blocks lines, ∃ rank : Nat,
      block.removed[rank]? = some pair.removed ∧ block.added[rank]? = some pair.added := by
  rw [changePairs, List.mem_flatMap]
  exact exists_congr fun block => and_congr_right fun _ => ChangePair.mem_zipWith

/-- The pairs ascend on both of their sides. -/
lemma pairwise_changePairs (lines : List Line) :
    (changePairs lines).Pairwise fun pair later =>
      pair.removed.index < later.removed.index ∧ pair.added.index < later.added.index := by
  have hremoved := pairwise_index_flatMap lines Block.map_removed_pairs_sublist
  have hadded := pairwise_index_flatMap lines Block.map_added_pairs_sublist
  rw [← List.map_flatMap, ← changePairs, List.pairwise_map] at hremoved hadded
  exact hremoved.and hadded

/-- No line is in two pairs, and none is there on both sides. -/
lemma nodup_bothLines (lines : List Line) :
    (Detection.bothLines (changePairs lines)).Nodup := by
  have hsides : ∀ pair ∈ changePairs lines, pair.removed.side = .old ∧ pair.added.side = .new :=
    fun pair hp =>
      have hwithin := ChangePair.within_of_mem_changePairs hp
      ⟨hwithin.removed_side, hwithin.added_side⟩
  have hdiffer {first second : Edit} (ho : first.side = .old) (hn : second.side = .new) :
      first ≠ second := by
    rintro rfl
    rw [ho] at hn
    contradiction
  refine List.nodup_flatMap.2 ⟨fun pair hp => ?_, ?_⟩
  · obtain ⟨hold, hnew⟩ := hsides pair hp
    simpa using hdiffer hold hnew
  · refine (pairwise_changePairs lines).imp_of_mem fun {pair later} hp hl hlt => ?_
    obtain ⟨hold, hnew⟩ := hsides pair hp
    obtain ⟨hold', hnew'⟩ := hsides later hl
    have hremoved : later.removed ≠ pair.removed := fun heq => by
      rw [heq] at hlt
      omega
    have hadded : later.added ≠ pair.added := fun heq => by
      rw [heq] at hlt
      omega
    simp [Function.onFun, hremoved, hadded, hdiffer hold' hnew, (hdiffer hold hnew').symm]

/-- No context line stands between the two lines of a pair, whichever of them comes first. -/
lemma not_isContext_of_between_pair {lines : List Line} {pair : ChangePair}
    (hp : pair ∈ changePairs lines) {i : Nat} {line : Line}
    (hmin : min pair.removed.index pair.added.index ≤ i)
    (hmax : i ≤ max pair.removed.index pair.added.index) (hline : lines[i]? = some line) :
    line.isContext = false := by
  obtain ⟨block, hb, -, hr, ha⟩ := mem_changePairs hp
  have hremoved := (mem_removed.1 hr).1
  have hadded := (mem_added.1 ha).1
  rcases Nat.le_total pair.removed.index pair.added.index with hle | hle
  · rw [Nat.min_eq_left hle] at hmin
    rw [Nat.max_eq_right hle] at hmax
    exact not_isContext_of_between hb hremoved hadded hmin hmax hline
  · rw [Nat.min_eq_right hle] at hmin
    rw [Nat.max_eq_left hle] at hmax
    exact not_isContext_of_between hb hadded hremoved hmin hmax hline

/-- A line of a block is in a pair of the hunk if it is in one of the block. -/
lemma exists_pair_iff_mem {line : ChangePair → Edit}
    (hline : ∀ block : Block, (block.pairs.map line).Sublist block) {lines : List Line}
    {block : Block} (hb : block ∈ blocks lines) {edit : Edit} (he : edit ∈ block) :
    (∃ pair ∈ changePairs lines, line pair = edit) ↔ edit ∈ block.pairs.map line := by
  constructor
  · rintro ⟨pair, hp, rfl⟩
    obtain ⟨other, ho, hpair⟩ := List.mem_flatMap.1 hp
    have hmem := List.mem_map_of_mem (f := line) hpair
    obtain rfl := block_eq_of_mem ho hb ((hline other).subset hmem) he
    exact hmem
  · intro hmem
    obtain ⟨pair, hp, rfl⟩ := List.mem_map.1 hmem
    exact ⟨pair, List.mem_flatMap.2 ⟨block, hb, hp⟩, rfl⟩

/-- Without repetition, what a list begins with holds an item exactly if it is long enough. -/
lemma mem_take_iff_of_nodup {α : Type} {items : List α} (hn : items.Nodup) {rank count : Nat}
    {item : α} (h : items[rank]? = some item) : item ∈ items.take count ↔ rank < count := by
  obtain ⟨hlt, rfl⟩ := List.getElem?_eq_some_iff.1 h
  rw [List.mem_take_iff_getElem]
  constructor
  · rintro ⟨i, hi, heq⟩
    have hrank := (hn.getElem_inj_iff).1 heq
    omega
  · intro hcount
    exact ⟨rank, by omega, rfl⟩

/-- The blocks of a hunk, put together, are its changed lines in order, each with its own place;
each is a run of them that nothing but a context line or an end of the hunk bounds.  The pairs are
those of a removed and an added line of the same rank in one block.  They ascend on both sides, no line is
in two of them, no context line stands between the two lines of one, and what a block leaves without
a pair is what the longer of its sides has beyond the length of the shorter one. -/
theorem pairs_join_equal_ranks (lines : List Line) :
    (blocks lines).flatten.map (fun edit => (edit.toLine, edit.index)) =
      lines.zipIdx.filter (!·.1.isContext) ∧
    (∀ block ∈ blocks lines, ∃ start, block.RunsFrom start lines) ∧
    (∀ pair, pair ∈ changePairs lines ↔ ∃ block ∈ blocks lines, ∃ rank : Nat,
      block.removed[rank]? = some pair.removed ∧ block.added[rank]? = some pair.added) ∧
    (changePairs lines).Pairwise (fun pair later =>
      pair.removed.index < later.removed.index ∧ pair.added.index < later.added.index) ∧
    (Detection.bothLines (changePairs lines)).Nodup ∧
    (∀ pair ∈ changePairs lines, ∀ i line,
      min pair.removed.index pair.added.index ≤ i → i ≤ max pair.removed.index pair.added.index →
        lines[i]? = some line → line.isContext = false) ∧
    ∀ block ∈ blocks lines, ∀ (rank : Nat) edit,
      (block.removed[rank]? = some edit →
        ((∃ pair ∈ changePairs lines, pair.removed = edit) ↔ rank < block.added.length)) ∧
      (block.added[rank]? = some edit →
        ((∃ pair ∈ changePairs lines, pair.added = edit) ↔ rank < block.removed.length)) := by
  refine ⟨map_editsFrom 0 lines, fun block => exists_runsFrom, fun pair => mem_changePairs_iff,
    pairwise_changePairs lines, nodup_bothLines lines,
    fun pair hp i line => not_isContext_of_between_pair hp, fun block hb rank edit => ⟨?_, ?_⟩⟩
  · intro hedit
    have he := (mem_removed.1 (List.mem_of_getElem? hedit)).1
    have hremoved : block.removed.Nodup := (nodup_block hb).filter _
    rw [exists_pair_iff_mem Block.map_removed_pairs_sublist hb he, Block.map_removed_pairs,
      mem_take_iff_of_nodup hremoved hedit]
  · intro hedit
    have he := (mem_added.1 (List.mem_of_getElem? hedit)).1
    have hadded : block.added.Nodup := (nodup_block hb).filter _
    rw [exists_pair_iff_mem Block.map_added_pairs_sublist hb he, Block.map_added_pairs,
      mem_take_iff_of_nodup hadded hedit]

example : (changePairs sampleHunk.lines).map (fun pair => (pair.removed.index, pair.added.index)) =
    [(0, 1), (3, 5), (4, 6)] := by
  decide

end DiffSieve
