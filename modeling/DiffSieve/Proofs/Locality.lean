import DiffSieve.Proofs.Quiet
import DiffSieve.Proofs.Replacement
import Mathlib.Data.List.Find

/-!
# What becomes of a block is told by the block

All that is found in a hunk ends up in sets of numbers and in one list of pairs, so it is not plain
that the blocks of a hunk leave each other alone.  They do, since in a numbered hunk a number of a
version belongs to one line: a block is flagged by the tests on that block
(`Block.mem_flaggedEdits_iff`), and an added line has its partner from the pairs of its block
(`Hunk.partner?_eq`).

So let a block stand in two hunks before the same content.  Its edits in one hunk are those in the
other, moved: versions and contents are the same, and the numbers of each version differ by a
constant (`exists_moves`).  Every test gives the same answer to a moved block, and whatever is built
from its lines is built from the moved lines (`SameBlock.stripBlock_map`).
-/

namespace DiffSieve

open Detection

/-! ## Moved edits -/

/-- Whether a map of edits keeps versions and contents and shifts the numbers of each version by a
constant. -/
structure Edit.Moves (shift : Sides Int) (move : Edit → Edit) : Prop where
  side : ∀ edit, (move edit).side = edit.side
  content : ∀ edit, (move edit).content = edit.content
  number : ∀ edit, (move edit).number = edit.number + shift.at edit.side

/-- A line with its numbers shifted by a constant in each version. -/
def Line.shift (shift : Sides Int) : Line → Line
  | context content old new => context content (old + shift.old) (new + shift.new)
  | removed content old => removed content (old + shift.old)
  | added content new => added content (new + shift.new)

/-- The pair of the images of two edits. -/
def ChangePair.map (f : Edit → Edit) (pair : ChangePair) : ChangePair :=
  ⟨f pair.removed, f pair.added⟩

lemma Edit.number_of_withNumbers {next : Sides Int} {edit : Edit}
    (h : edit.toLine.withNumbers next = edit.toLine) : edit.number = next.at edit.side := by
  cases hside : edit.side with
  | old =>
    simp only [toLine, hside, Line.withNumbers, Line.removed.injEq] at h
    exact h.2.symm
  | new =>
    simp only [toLine, hside, Line.withNumbers, Line.added.injEq] at h
    exact h.2.symm

lemma Edit.tally_toLine {edit edit' : Edit} (h : edit'.side = edit.side) :
    Line.tally [edit'.toLine] = Line.tally [edit.toLine] := by
  rw [toLine, toLine, h]
  cases edit.side <;> rfl

/-- A map of edits may be changed at one of them. -/
lemma Edit.Moves.update {shift : Sides Int} {move : Edit → Edit} (hm : Moves shift move)
    {edit edit' : Edit} (hside : edit'.side = edit.side) (hcontent : edit'.content = edit.content)
    (hnumber : edit'.number = edit.number + shift.at edit.side) :
    Moves shift fun other => if other = edit then edit' else move other where
  side := by
    intro other
    split
    · next h => rw [h, hside]
    · exact hm.side other
  content := by
    intro other
    split
    · next h => rw [h, hcontent]
    · exact hm.content other
  number := by
    intro other
    split
    · next h => rw [h, hnumber]
    · exact hm.number other

/-- Numbered blocks that show the same are moved into each other. -/
lemma exists_moves {next shift : Sides Int} {block block' : Block} (hnodup : block.Nodup)
    (hn : Numbered next (block.map Edit.toLine))
    (hn' : Numbered (next + shift) (block'.map Edit.toLine)) (hs : block.shape = block'.shape) :
    ∃ move, Edit.Moves shift move ∧ block' = block.map move := by
  induction block generalizing next block' with
  | nil =>
    have hnil : block' = [] := List.map_eq_nil_iff.1 hs.symm
    exact ⟨fun edit => { edit with number := edit.number + shift.at edit.side },
      ⟨fun _ => rfl, fun _ => rfl, fun _ => rfl⟩, hnil⟩
  | cons edit rest ih =>
    cases block' with
    | nil => cases hs
    | cons edit' rest' =>
      obtain ⟨hedit, hrest⟩ := List.cons_eq_cons.1 hs
      obtain ⟨hside, hcontent⟩ := Prod.mk.inj hedit
      obtain ⟨hline, hmore⟩ := numbered_cons.1 hn
      obtain ⟨hline', hmore'⟩ := numbered_cons.1 hn'
      have hnext : next + shift + Line.tally [edit'.toLine] =
          next + Line.tally [edit.toLine] + shift := by
        rw [Edit.tally_toLine hside.symm]
        simp only [Sides.add_def, Sides.mk.injEq]
        omega
      rw [hnext] at hmore'
      obtain ⟨hnot, hnodup⟩ := List.nodup_cons.1 hnodup
      obtain ⟨move, hmoves, rfl⟩ := ih hnodup hmore hmore' hrest
      have hnumber : edit'.number = edit.number + shift.at edit.side := by
        rw [Edit.number_of_withNumbers hline, Edit.number_of_withNumbers hline', Sides.at_add,
          ← hside]
      refine ⟨_, hmoves.update hside.symm hcontent.symm hnumber, ?_⟩
      rw [List.map_cons, if_pos rfl]
      congr 1
      apply List.map_congr_left
      intro other ho
      exact (if_neg fun heq : other = edit => hnot (heq ▸ ho)).symm

/-! ## What is built from the edits of a block -/

namespace Edit.Moves

variable {shift : Sides Int} {move : Edit → Edit} (hm : Moves shift move) {block : Block}

include hm

lemma toLine_eq (edit : Edit) : (move edit).toLine = edit.toLine.shift shift := by
  rw [toLine, toLine, hm.side, hm.content, hm.number]
  cases edit.side <;> rfl

lemma number_old {edit : Edit} (h : edit.side = .old) :
    (move edit).number = edit.number + shift.old := by
  rw [hm.number, h]
  rfl

lemma number_new {edit : Edit} (h : edit.side = .new) :
    (move edit).number = edit.number + shift.new := by
  rw [hm.number, h]
  rfl

lemma filter_side_map (side : Side) (block : Block) :
    (block.map move).filter (·.side = side) = (block.filter (·.side = side)).map move := by
  rw [List.filter_map]
  congr 1
  apply List.filter_congr
  intro edit _
  rw [Function.comp_apply, hm.side]

lemma removed_map (block : Block) : Block.removed (block.map move) = block.removed.map move :=
  hm.filter_side_map .old block

lemma added_map (block : Block) : Block.added (block.map move) = block.added.map move :=
  hm.filter_side_map .new block

lemma pairs_map (block : Block) :
    Block.pairs (block.map move) = block.pairs.map (ChangePair.map move) := by
  rw [Block.pairs, hm.removed_map, hm.added_map, List.zipWith_map, Block.pairs, List.map_zipWith]
  rfl

lemma map_content_map (edits : List Edit) :
    (edits.map move).map Edit.content = edits.map Edit.content := by
  rw [List.map_map]
  exact List.map_congr_left fun edit _ => hm.content edit

/-- Statements are matched by their contents. -/
lemma matchStatements_map (removed added : List Edit) :
    matchStatements (removed.map move) (added.map move) =
      (matchStatements removed added).map (ChangePair.map move) := by
  induction removed generalizing added with
  | nil => rfl
  | cons edit rest ih =>
    have hsame : sameStatement (move edit) ∘ move = sameStatement edit := by
      funext other
      simp only [Function.comp_apply, sameStatement, hm.content]
    rw [List.map_cons, matchStatements, List.find?_map, List.eraseP_map, hsame, matchStatements]
    cases added.find? (sameStatement edit) with
    | none => exact ih added
    | some partner => exact congrArg (_ :: ·) (ih _)

lemma editTest_eq (category : Category) (edit : Edit) :
    editTest category (move edit) = editTest category edit := by
  cases category <;> simp only [editTest, hm.content]

lemma blockTest_eq (dialect : Dialect) (category : Category) (block : Block) :
    blockTest dialect category (block.map move) = blockTest dialect category block := by
  apply blockTest_congr
  · exact hm.map_content_map block
  · rw [hm.removed_map, hm.map_content_map]
  · rw [hm.added_map, hm.map_content_map]

lemma asContext_map {added : List Edit} (ha : ∀ edit ∈ added, edit.side = .new) (last : Int)
    (numbers : List Int) :
    asContext (last + shift.old) (numbers.map (· + shift.old)) (added.map move) =
      (asContext last numbers added).map (Line.shift shift) := by
  induction added generalizing last numbers with
  | nil => cases numbers <;> rfl
  | cons edit rest ih =>
    have hrest := ih fun other ho => ha other (List.mem_cons_of_mem _ ho)
    have hnumber := hm.number_new (ha edit List.mem_cons_self)
    cases numbers with
    | nil =>
      rw [List.map_nil, List.map_cons, asContext, asContext, List.map_cons, ← hrest, hm.content,
        hnumber]
      rfl
    | cons number more =>
      rw [List.map_cons, List.map_cons, asContext, asContext, List.map_cons, ← hrest, hm.content,
        hnumber]
      rfl

lemma collapsed_map (block : Block) :
    Block.collapsed (block.map move) = block.collapsed.map (Line.shift shift) := by
  have hnumbers : (block.removed.map move).map Edit.number =
      (block.removed.map Edit.number).map (· + shift.old) := by
    rw [List.map_map, List.map_map]
    apply List.map_congr_left
    exact fun edit he => hm.number_old (mem_removed.1 he).2
  rw [Block.collapsed, hm.removed_map, hm.added_map, hnumbers, Block.collapsed]
  cases block.removed.map Edit.number with
  | nil => rfl
  | cons number more =>
    exact hm.asContext_map (fun edit he => (mem_added.1 he).2) number (number :: more)

end Edit.Moves

/-! ## Partners within a block -/

section

variable {config : Config} {dialect : Dialect} {block : Block}

/-- The pairs by content that a block has if it is searched for noise. -/
def Block.contentPairs (config : Config) (dialect : Dialect) (block : Block) : List ChangePair :=
  if config.ignores .importOrder && blockTest dialect .importOrder block then
    matchStatements block.removed block.added
  else []

/-- The pair of a block that counts for its added line of the given number. -/
def Block.pair? (config : Config) (dialect : Dialect) (block : Block) (number : Int) :
    Option ChangePair :=
  ((block.contentPairs config dialect).findRev? (·.added.number = number)).or
    (block.pairs.findRev? (·.added.number = number))

lemma Block.mem_contentPairs {pair : ChangePair} :
    pair ∈ block.contentPairs config dialect ↔
      config.ignores .importOrder = true ∧ blockTest dialect .importOrder block = true ∧
        pair ∈ matchStatements block.removed block.added := by
  rw [contentPairs]
  split
  · next h =>
    rw [Bool.and_eq_true] at h
    simp [h]
  · next h =>
    rw [Bool.and_eq_true] at h
    simp only [List.not_mem_nil, false_iff]
    exact fun hall => h ⟨hall.1, hall.2.1⟩

/-- The pairs of a block take their lines from it. -/
lemma Block.mem_of_mem_contentPairs {pair : ChangePair}
    (h : pair ∈ block.contentPairs config dialect) :
    pair.removed ∈ block.removed ∧ pair.added ∈ block.added := by
  obtain ⟨-, htest, hp⟩ := mem_contentPairs.1 h
  exact mem_of_mem_matchStatements htest hp

lemma Block.mem_of_pair? {number : Int} {pair : ChangePair}
    (h : block.pair? config dialect number = some pair) : pair.removed ∈ block.removed := by
  rw [pair?, Option.or_eq_some_iff] at h
  rcases h with hfind | ⟨-, hfind⟩
  · exact (mem_of_mem_contentPairs (of_findRev?_eq_some hfind).1).1
  · exact (mem_of_mem_pairs (of_findRev?_eq_some hfind).1).1

namespace Edit.Moves

variable {shift : Sides Int} {move : Edit → Edit} (hm : Moves shift move)

include hm

/-- Moved pairs are found by moved numbers. -/
lemma findRev?_map {pairs : List ChangePair} (hp : ∀ pair ∈ pairs, pair.added.side = .new)
    (number : Int) :
    (pairs.map (ChangePair.map move)).findRev? (·.added.number = number + shift.new) =
      (pairs.findRev? (·.added.number = number)).map (ChangePair.map move) := by
  rw [List.findRev?_eq_find?_reverse, List.findRev?_eq_find?_reverse, ← List.map_reverse,
    List.find?_map]
  congr 1
  apply List.find?_congr
  intro pair hmem
  simp only [Function.comp_apply, ChangePair.map,
    hm.number_new (hp pair (List.mem_reverse.1 hmem)), Int.add_left_inj]

lemma contentPairs_map (config : Config) (dialect : Dialect) (block : Block) :
    Block.contentPairs config dialect (block.map move) =
      (block.contentPairs config dialect).map (ChangePair.map move) := by
  rw [Block.contentPairs, hm.blockTest_eq, hm.removed_map, hm.added_map, hm.matchStatements_map,
    Block.contentPairs]
  split <;> rfl

lemma pair?_map (config : Config) (dialect : Dialect) (block : Block) (number : Int) :
    Block.pair? config dialect (block.map move) (number + shift.new) =
      (block.pair? config dialect number).map (ChangePair.map move) := by
  have hcontent : ∀ pair ∈ block.contentPairs config dialect, pair.added.side = .new :=
    fun pair hp => (mem_added.1 (Block.mem_of_mem_contentPairs hp).2).2
  have hrank : ∀ pair ∈ block.pairs, pair.added.side = .new :=
    fun pair hp => (mem_added.1 (mem_of_mem_pairs hp).2).2
  rw [Block.pair?, hm.contentPairs_map, hm.pairs_map, hm.findRev?_map hcontent,
    hm.findRev?_map hrank, ← Option.map_or, Block.pair?]

end Edit.Moves

end

/-- Among pairs of a numbered hunk that share no added line, the pair of an added line is found
where it is found among fewer of them. -/
lemma findRev?_eq_of_subset {next : Sides Int} {lines : List Line} {pairs fewer : List ChangePair}
    {edit : Edit} (hn : Numbered next lines) (hw : ∀ p ∈ pairs, p.Within lines)
    (hu : ∀ p ∈ pairs, ∀ q ∈ pairs, p.added = q.added → p = q) (he : edit ∈ edits lines)
    (hs : edit.side = .new) (hsub : fewer ⊆ pairs)
    (hall : ∀ p ∈ pairs, p.added = edit → p ∈ fewer) :
    pairs.findRev? (·.added.number = edit.number) =
      fewer.findRev? (·.added.number = edit.number) := by
  by_cases hex : ∃ p ∈ pairs, p.added = edit
  · obtain ⟨pair, hp, rfl⟩ := hex
    rw [findRev?_eq_some hn hw hu hp, findRev?_eq_some hn (fun p hmem => hw p (hsub hmem))
      (fun p hmem q hmem' => hu p (hsub hmem) q (hsub hmem')) (hall pair hp rfl)]
  · have hnone : ∀ p ∈ pairs, p.added ≠ edit := fun p hp heq => hex ⟨p, hp, heq⟩
    rw [findRev?_eq_none hn hw he hs hnone, findRev?_eq_none hn (fun p hmem => hw p (hsub hmem))
      he hs fun p hmem => hnone p (hsub hmem)]

namespace Hunk

variable {hunk : Hunk} {config : Config} {path : Text} {block : Block} {edit : Edit}

/-- The partner of an added line comes from the pairs of its block. -/
lemma partner?_eq (hn : Numbered hunk.start hunk.lines) (hb : block ∈ blocks hunk.lines)
    (he : edit ∈ block.added) :
    (hunk.flags (hunk.findings config path)).partner? edit.number =
      (block.pair? config (Dialect.ofPath path) edit.number).map (·.removed.number) := by
  obtain ⟨hin, hside⟩ := mem_added.1 he
  have hmem := mem_edits.2 ⟨block, hb, hin⟩
  have hcontent : (contentPairs (hunk.findings config path)).findRev?
      (·.added.number = edit.number) =
        (block.contentPairs config (Dialect.ofPath path)).findRev?
          (·.added.number = edit.number) := by
    apply findRev?_eq_of_subset hn (fun p hp => within_of_mem_contentPairs hp)
      (fun p hp q hq => contentPair_eq_of_added hp hq) hmem hside
    · intro pair hp
      obtain ⟨hc, htest, hmatch⟩ := Block.mem_contentPairs.1 hp
      exact mem_contentPairs_of_mem hn hc hb htest hmatch
    · rintro pair hp rfl
      obtain ⟨hc, other, ho, htest, hmatch⟩ := mem_contentPairs hp
      have hadded := mem_added.1 (mem_of_mem_matchStatements htest hmatch).2
      obtain rfl := block_eq_of_mem hb ho hin hadded.1
      exact Block.mem_contentPairs.2 ⟨hc, htest, hmatch⟩
  have hrank : (changePairs hunk.lines).findRev? (·.added.number = edit.number) =
      block.pairs.findRev? (·.added.number = edit.number) := by
    apply findRev?_eq_of_subset hn (fun p hp => ChangePair.within_of_mem_changePairs hp)
      (fun p hp q hq => pair_eq_of_added hp hq) hmem hside
    · exact fun pair hp => List.mem_flatMap.2 ⟨block, hb, hp⟩
    · rintro pair hp rfl
      obtain ⟨other, ho, hpair, -, hadded⟩ := mem_changePairs hp
      obtain rfl := block_eq_of_mem hb ho hin (mem_added.1 hadded).1
      exact hpair
  rw [partner?_flags, hcontent, hrank, Block.pair?]

end Hunk

/-! ## A block in two hunks -/

/-- Whether a block of one hunk, moved, is a block of another one and its lines are seen alike. -/
structure SameBlock (hunk hunk' : Hunk) (block : Block) (shift : Sides Int) (move : Edit → Edit) :
    Prop where
  numbered : Numbered hunk.start hunk.lines
  numbered' : Numbered hunk'.start hunk'.lines
  mem : block ∈ blocks hunk.lines
  mem' : block.map move ∈ blocks hunk'.lines
  moves : Edit.Moves shift move
  view : ∀ edit ∈ block, (move edit).view hunk'.lines = edit.view hunk.lines

namespace SameBlock

variable {hunk hunk' : Hunk} {block : Block} {shift : Sides Int} {move : Edit → Edit}
  (h : SameBlock hunk hunk' block shift move) {config : Config} {path : Text} {edit : Edit}

include h

lemma mem_edits (he : edit ∈ block) : edit ∈ edits hunk.lines :=
  DiffSieve.mem_edits.2 ⟨block, h.mem, he⟩

lemma mem_edits' (he : edit ∈ block) : move edit ∈ edits hunk'.lines :=
  DiffSieve.mem_edits.2 ⟨_, h.mem', List.mem_map_of_mem he⟩

lemma move_inj {first second : Edit} (hf : first ∈ block) (hs : second ∈ block)
    (heq : move first = move second) : first = second := by
  have hside := congrArg Edit.side heq
  have hnumber := congrArg Edit.number heq
  rw [h.moves.side, h.moves.side] at hside
  rw [h.moves.number, h.moves.number, hside, Int.add_left_inj] at hnumber
  exact edit_eq_of_number h.numbered (h.mem_edits hf) (h.mem_edits hs) hside hnumber

/-- Every category means the same lines of the block. -/
lemma mem_flaggedEdits_iff {dialect : Dialect} {category : Category} (he : edit ∈ block) :
    move edit ∈ flaggedEdits dialect hunk'.lines category ↔
      edit ∈ flaggedEdits dialect hunk.lines category := by
  have hpair : ∀ pair ∈ block.pairs, pairTest hunk'.lines category (pair.map move) =
        pairTest hunk.lines category pair ∧
      ((move edit = (pair.map move).removed ∨ move edit = (pair.map move).added) ↔
        (edit = pair.removed ∨ edit = pair.added)) := by
    intro pair hp
    obtain ⟨hr, ha⟩ := mem_of_mem_pairs hp
    have hr := (mem_removed.1 hr).1
    have ha := (mem_added.1 ha).1
    refine ⟨pairTest_congr (h.view _ hr) (h.view _ ha), or_congr ⟨?_, ?_⟩ ⟨?_, ?_⟩⟩
    · exact h.move_inj he hr
    · exact congrArg move
    · exact h.move_inj he ha
    · exact congrArg move
  rw [Block.mem_flaggedEdits_iff h.mem' (List.mem_map_of_mem he),
    Block.mem_flaggedEdits_iff h.mem he, h.moves.pairs_map, h.moves.editTest_eq,
    h.moves.blockTest_eq]
  refine or_congr ⟨?_, ?_⟩ Iff.rfl
  · rintro ⟨pair', hp', htest, heq⟩
    obtain ⟨pair, hp, rfl⟩ := List.mem_map.1 hp'
    obtain ⟨hsame, hiff⟩ := hpair pair hp
    exact ⟨pair, hp, hsame ▸ htest, hiff.1 heq⟩
  · rintro ⟨pair, hp, htest, heq⟩
    obtain ⟨hsame, hiff⟩ := hpair pair hp
    exact ⟨pair.map move, List.mem_map_of_mem hp, hsame.trans htest, hiff.2 heq⟩

lemma holds_lines (config : Config) (path : Text) (he : edit ∈ block) :
    Flags.holds (hunk'.flags (hunk'.findings config path)).lines (move edit) =
      Flags.holds (hunk.flags (hunk.findings config path)).lines edit := by
  rw [Bool.eq_iff_iff, Hunk.holds_lines_iff h.numbered' (h.mem_edits' he),
    Hunk.holds_lines_iff h.numbered (h.mem_edits he)]
  simp only [h.mem_flaggedEdits_iff he]

lemma number_mem_lines (config : Config) (path : Text) (he : edit ∈ block)
    (hside : edit.side = .old) :
    edit.number + shift.old ∈ (hunk'.flags (hunk'.findings config path)).lines.old ↔
      edit.number ∈ (hunk.flags (hunk.findings config path)).lines.old := by
  have hholds := h.holds_lines config path he
  rw [Bool.eq_iff_iff, Flags.holds_iff, Flags.holds_iff, h.moves.side, hside,
    h.moves.number_old hside] at hholds
  exact hholds

lemma collapses :
    (hunk'.flags (hunk'.findings config path)).collapses (block.map move) =
      (hunk.flags (hunk.findings config path)).collapses block := by
  rw [Bool.eq_iff_iff, Hunk.collapses_iff h.numbered' h.mem', Hunk.collapses_iff h.numbered h.mem,
    h.moves.blockTest_eq]

/-- A single line is treated in the same way. -/
lemma stripEdit_move (he : edit ∈ block) :
    (hunk'.flags (hunk'.findings config path)).stripEdit (move edit) =
      ((hunk.flags (hunk.findings config path)).stripEdit edit).map (Line.shift shift) := by
  rw [Flags.stripEdit, Flags.stripEdit, h.holds_lines config path he, h.moves.side,
    h.moves.toLine_eq]
  cases Flags.holds (hunk.flags (hunk.findings config path)).lines edit with
  | false => rfl
  | true =>
    cases hside : edit.side with
    | old => rfl
    | new =>
      have hadded : edit ∈ block.added := mem_added.2 ⟨he, hside⟩
      have hadded' : move edit ∈ Block.added (block.map move) := by
        rw [h.moves.added_map]
        exact List.mem_map_of_mem hadded
      rw [Hunk.partner?_eq h.numbered h.mem hadded, Hunk.partner?_eq h.numbered' h.mem' hadded',
        h.moves.number_new hside, h.moves.pair?_map]
      cases hpair : block.pair? config (Dialect.ofPath path) edit.number with
      | none => rfl
      | some pair =>
        obtain ⟨hin, hold⟩ := mem_removed.1 (Block.mem_of_pair? hpair)
        simp only [if_true, Option.map_some, ChangePair.map, h.moves.number_old hold,
          h.number_mem_lines config path hin hold, h.moves.content]
        split
        · rfl
        · rfl

/-- The same lines take the place of the block, with shifted numbers. -/
lemma stripBlock_map (config : Config) (path : Text) :
    (hunk'.flags (hunk'.findings config path)).stripBlock (block.map move) =
      ((hunk.flags (hunk.findings config path)).stripBlock block).map (Line.shift shift) := by
  rw [Flags.stripBlock, Flags.stripBlock, h.collapses]
  split
  · exact h.moves.collapsed_map block
  · rw [List.flatMap_map, List.map_flatMap]
    exact List.flatMap_congr fun edit he => h.stripEdit_move he

end SameBlock

/-! ## Blocks that show the same -/

lemma Segment.mem_withNext_append (before : List Segment) (block : Block)
    (after : List Segment) :
    (block, firstContent after) ∈ withNext (before ++ .block block :: after) := by
  induction before with
  | nil => exact List.mem_cons_self
  | cons segment rest ih =>
    cases segment with
    | context content old new => exact ih
    | block edits => exact List.mem_cons_of_mem _ ih

/-- The lines of a block have the numbers of counters that stand where the block begins. -/
lemma Numbered.exists_of_segments {next : Sides Int} {lines : List Line}
    (hn : Numbered next lines) {before after : List Segment} {block : Block}
    (hs : segments lines = before ++ .block block :: after) :
    ∃ start, Numbered start (block.map Edit.toLine) := by
  have hlines := Segment.flatMap_toLines_segmentsFrom 0 lines
  rw [← segments, hs, List.flatMap_append, List.flatMap_cons] at hlines
  rw [← hlines] at hn
  exact ⟨_, hn.of_append.2.of_append.1⟩

/-- Blocks that show the same before the same content are the same block, moved. -/
lemma exists_sameBlock {hunk hunk' : Hunk} (hn : Numbered hunk.start hunk.lines)
    (hn' : Numbered hunk'.start hunk'.lines) {before after before' after' : List Segment}
    {block block' : Block} (hs : segments hunk.lines = before ++ .block block :: after)
    (hs' : segments hunk'.lines = before' ++ .block block' :: after')
    (hshape : block.shape = block'.shape)
    (hnext : Segment.firstContent after = Segment.firstContent after') :
    ∃ shift move, block' = block.map move ∧ SameBlock hunk hunk' block shift move := by
  have hmem : (block, Segment.firstContent after) ∈ Segment.withNext (segments hunk.lines) :=
    hs ▸ Segment.mem_withNext_append before block after
  have hmem' : (block', Segment.firstContent after') ∈ Segment.withNext (segments hunk'.lines) :=
    hs' ▸ Segment.mem_withNext_append before' block' after'
  have hb : block ∈ blocks hunk.lines := by
    rw [blocks, ← Segment.map_fst_withNext]
    exact List.mem_map_of_mem hmem
  have hb' : block' ∈ blocks hunk'.lines := by
    rw [blocks, ← Segment.map_fst_withNext]
    exact List.mem_map_of_mem hmem'
  obtain ⟨start, hstart⟩ := hn.exists_of_segments hs
  obtain ⟨start', hstart'⟩ := hn'.exists_of_segments hs'
  have hshift : start' = start + ⟨start'.old - start.old, start'.new - start.new⟩ := by
    cases start'
    simp only [Sides.add_def, Sides.mk.injEq]
    omega
  rw [hshift] at hstart'
  obtain ⟨move, hmoves, rfl⟩ := exists_moves (nodup_block hb) hstart hstart' hshape
  refine ⟨_, move, rfl, hn, hn', hb, hb', hmoves, ?_⟩
  have hviews := Segment.map_view_of_mem_withNext List.drop_zero _ hmem
  have hviews' := Segment.map_view_of_mem_withNext List.drop_zero _ hmem'
  rw [← hnext, ← Segment.views_of_shape hshape, ← hviews, List.map_map] at hviews'
  exact List.map_inj_left.1 hviews'

/-- Let two hunks that were read hold blocks that show the same.  A block is a longest run of
changed lines, so a context line follows it or the hunk ends; let context lines of the same content
follow both, or let both hunks end.  Then, with the same categories and the same path, every
category flags the same lines of the two blocks, and where both hunks are kept, the lines that take
the place of the blocks show the same.  The numbers of these lines differ by a constant in each
version, as those of the blocks do. -/
theorem blocks_are_stripped_on_their_own {text text' : Text} {files files' : List File}
    (h : readDiff text = .ok files) (h' : readDiff text' = .ok files') {file file' : File}
    (hf : file ∈ files) (hf' : file' ∈ files') {hunk hunk' : Hunk} (hh : hunk ∈ file.hunks)
    (hh' : hunk' ∈ file'.hunks) {before after before' after' : List Segment}
    {block block' : Block} (hs : segments hunk.lines = before ++ .block block :: after)
    (hs' : segments hunk'.lines = before' ++ .block block' :: after')
    (hshape : block.shape = block'.shape)
    (hnext : Segment.firstContent after = Segment.firstContent after') (config : Config)
    (path : Text) :
    let detected hunk := ofCategory (Dialect.ofPath path) hunk.lines (changePairs hunk.lines)
    let flags hunk := Hunk.flags hunk (hunk.findings config path)
    let emitted := (flags hunk).stripBlock block
    (∀ (category : Category) (i : Nat) (edit edit' : Edit),
      block[i]? = some edit → block'[i]? = some edit' →
        Flags.holds (detected hunk' category).flagged edit' =
          Flags.holds (detected hunk category).flagged edit) ∧
    ∃ shift : Sides Int,
      (∀ (i : Nat) (edit edit' : Edit), block[i]? = some edit → block'[i]? = some edit' →
        edit'.number = edit.number + shift.at edit.side) ∧
      ∀ left left', (hunk.sieve (hunk.findings config path)).hunk = some left →
        (hunk'.sieve (hunk'.findings config path)).hunk = some left' →
        left.lines = before.flatMap (flags hunk).stripSegment ++ emitted ++
          after.flatMap (flags hunk).stripSegment ∧
        left'.lines = before'.flatMap (flags hunk').stripSegment ++
          emitted.map (Line.shift shift) ++ after'.flatMap (flags hunk').stripSegment := by
  intro detected flags emitted
  have hn := (isCounted_of_readDiff h hf hh).numbered
  have hn' := (isCounted_of_readDiff h' hf' hh').numbered
  obtain ⟨shift, move, rfl, hsame⟩ := exists_sameBlock hn hn' hs hs' hshape hnext
  have hmove : ∀ (i : Nat) (edit edit' : Edit), block[i]? = some edit →
      (block.map move)[i]? = some edit' → edit ∈ block ∧ edit' = move edit := by
    intro i edit edit' hi hi'
    rw [List.getElem?_map, hi] at hi'
    exact ⟨List.mem_of_getElem? hi, (Option.some.inj hi').symm⟩
  refine ⟨?_, shift, ?_, ?_⟩
  · intro category i edit edit' hi hi'
    obtain ⟨he, rfl⟩ := hmove i edit edit' hi hi'
    rw [Bool.eq_iff_iff, holds_flagged_iff hn' (hsame.mem_edits' he),
      holds_flagged_iff hn (hsame.mem_edits he), hsame.mem_flaggedEdits_iff he]
  · intro i edit edit' hi hi'
    obtain ⟨-, rfl⟩ := hmove i edit edit' hi hi'
    exact hsame.moves.number edit
  · intro left left' hleft hleft'
    rw [Hunk.lines_of_sieve hleft, Hunk.lines_of_sieve hleft', Flags.stripLines, Flags.stripLines,
      hs, hs', List.flatMap_append, List.flatMap_append, List.flatMap_cons, List.flatMap_cons,
      Flags.stripSegment, Flags.stripSegment, hsame.stripBlock_map config path,
      List.append_assoc, List.append_assoc]
    exact ⟨rfl, rfl⟩

/-! ### A block of the sample in another hunk -/

def movedText : Text :=
  ["diff --git a/y.ts b/y.ts", "@@ -10,4 +20,3 @@", "-q", " z", "-a = 1", "+a  = 1",
    " c"].flatMap fun line => line.toList ++ ['\n']

def movedHunk : Hunk where
  header := "@@ -10,4 +20,3 @@".toList
  heading := []
  start := ⟨10, 20⟩
  count := ⟨4, 3⟩
  declared := ⟨4, 3⟩
  lines :=
    [.removed ['q'] 10, .context ['z'] 11 20, .removed "a = 1".toList 12, .added "a  = 1".toList 21,
      .context ['c'] 13 22]

def movedFile : File where
  path := "y.ts".toList
  source := some "y.ts".toList
  target := some "y.ts".toList
  kind := .modify
  metadata := {}
  hunks := [movedHunk]

lemma readDiff_movedText : readDiff movedText = .ok [movedFile] := by rfl

/-- The pair that differs in spaces becomes context in both hunks, eleven lines further down in the
old version and twenty in the new one. -/
theorem moved_of_sampleText :
    let config : Config := { whitespace := true }
    let sieved (hunk : Hunk) := (hunk.sieve (hunk.findings config sampleFile.path)).hunk
    readDiff sampleText = .ok [sampleFile] ∧ readDiff movedText = .ok [movedFile] ∧
    ∃ left left', sieved sampleHunk = some left ∧ sieved movedHunk = some left' ∧
      left.lines.head? = some (.context "a  = 1".toList 1 1) ∧
      ∃ shift : Sides Int, shift.old = 11 ∧ shift.new = 20 ∧
        left'.lines = [.removed ['q'] 10, .context ['z'] 11 20] ++
          [Line.context "a  = 1".toList 1 1].map (Line.shift shift) ++ [.context ['c'] 13 22] := by
  intro config sieved
  let block : Block := [⟨0, .old, "a = 1".toList, 1⟩, ⟨1, .new, "a  = 1".toList, 1⟩]
  let block' : Block := [⟨2, .old, "a = 1".toList, 12⟩, ⟨3, .new, "a  = 1".toList, 21⟩]
  have hs : segments sampleHunk.lines =
      [] ++ .block block :: (segments sampleHunk.lines).drop 1 := by decide +kernel
  have hs' : segments movedHunk.lines =
      (segments movedHunk.lines).take 2 ++ .block block' :: [.context ['c'] 13 22] := by
    decide +kernel
  obtain ⟨-, shift, hnumber, hlines⟩ := blocks_are_stripped_on_their_own readDiff_sampleText
    readDiff_movedText (List.mem_singleton_self _) (List.mem_singleton_self _)
    (List.mem_singleton_self sampleHunk) (List.mem_singleton_self movedHunk) hs hs' (by rfl)
    (by decide +kernel) config sampleFile.path
  have hold : shift.old = 11 := by
    have hremoved : (12 : Int) = 1 + shift.old := hnumber 0 _ _ rfl rfl
    omega
  have hnew : shift.new = 20 := by
    have hadded : (21 : Int) = 1 + shift.new := hnumber 1 _ _ rfl rfl
    omega
  obtain ⟨left, hleft⟩ := Option.isSome_iff_exists.1
    (show (sieved sampleHunk).isSome = true by decide +kernel)
  obtain ⟨left', hleft'⟩ := Option.isSome_iff_exists.1
    (show (sieved movedHunk).isSome = true by decide +kernel)
  obtain ⟨hfirst, hsecond⟩ := hlines left left' hleft hleft'
  refine ⟨readDiff_sampleText, readDiff_movedText, left, left', hleft, hleft', ?_, shift, hold,
    hnew, ?_⟩
  · rw [hfirst]
    decide +kernel
  · have hemitted : (sampleHunk.flags (sampleHunk.findings config sampleFile.path)).stripBlock
        block = [.context "a  = 1".toList 1 1] := by decide +kernel
    have hbefore : ((segments movedHunk.lines).take 2).flatMap (movedHunk.flags
        (movedHunk.findings config sampleFile.path)).stripSegment =
          [.removed ['q'] 10, .context ['z'] 11 20] := by decide +kernel
    rw [hsecond, hemitted, hbefore]
    rfl

end DiffSieve
