import DiffSieve.Proofs.Locality
import DiffSieve.Proofs.Wrapping

/-!
# Where the lines of a stripped hunk come from

Stripping works segment by segment, so each line that is left comes from one segment of the hunk
(`Flags.traced`).  The number of a line in the old version is that of a line of its segment
(`Hunk.exists_line_of_mem_stripSegment`), and since the numbers of a hunk ascend, lines from two
segments never share one.

Inside a block that becomes context as a whole, only the last removed line is used more than once,
and only if there are more added than removed lines (`Hunk.pairwise_collapsed`).  In any other block
each number of the old version belongs to one edit (`Hunk.eq_of_leavesOld`).  A removed line that
stays is not flagged, whereas a removed line whose number a context line carries is; and no two
added lines have the same partner.  The latter is not plain from how partners are found, since the
pairs by content are put on top of the pairs by rank: but they cover all of a block or nothing of
it, so that the pairs that count are all of one kind (`Block.partners`).
-/

namespace DiffSieve

open Detection

/-! ## The pairs that count -/

section

variable {config : Config} {dialect : Dialect} {block : Block}

/-- The pairs of a block that count if it is searched for noise: those by content if only the order
of its imports changed and that is to be removed, and those by rank otherwise. -/
def Block.partners (config : Config) (dialect : Dialect) (block : Block) : List ChangePair :=
  if config.ignores .importOrder && blockTest dialect .importOrder block then
    matchStatements block.removed block.added
  else block.pairs

lemma Block.mem_of_mem_partners {pair : ChangePair} (h : pair ∈ block.partners config dialect) :
    pair.removed ∈ block.removed ∧ pair.added ∈ block.added := by
  rw [partners] at h
  split at h
  · next htest =>
    rw [Bool.and_eq_true] at htest
    exact mem_of_mem_matchStatements htest.2 h
  · exact mem_of_mem_pairs h

lemma Block.mem_partners_of_pair? {edit : Edit} (he : edit ∈ block.added) {pair : ChangePair}
    (h : block.pair? config dialect edit.number = some pair) :
    pair ∈ block.partners config dialect ∧ pair.added.number = edit.number := by
  rw [pair?, contentPairs, Option.or_eq_some_iff] at h
  rw [partners]
  split at h
  · next htest =>
    rw [if_pos htest]
    rw [Bool.and_eq_true] at htest
    rcases h with hfind | ⟨hnone, -⟩
    · exact of_findRev?_eq_some hfind
    · -- Every added line of the block has a partner by content.
      have hadded := (matchStatements_perm (perm_of_blockTest htest.2)).2.symm.subset he
      obtain ⟨other, ho, rfl⟩ := List.mem_map.1 hadded
      exact absurd rfl (findRev?_eq_none_iff.1 hnone other ho)
  · next htest =>
    rw [if_neg htest]
    rcases h with hfind | ⟨-, hfind⟩
    · cases hfind
    · exact of_findRev?_eq_some hfind

/-- No removed line of a block is in two pairs that count. -/
lemma Block.nodup_removed_partners (h : block.Nodup) :
    ((block.partners config dialect).map ChangePair.removed).Nodup := by
  have hremoved : block.removed.Nodup := h.filter _
  rw [partners]
  split
  · next htest =>
    rw [Bool.and_eq_true] at htest
    rwa [(matchStatements_perm (perm_of_blockTest htest.2)).1]
  · rw [pairs, map_removed_zipWith]
    exact hremoved.sublist (List.take_sublist _ _)

end

/-! ## Lines and their segments -/

namespace Flags

/-- The lines that stripping leaves, each with the segment it comes from. -/
def traced (flags : Flags) (lines : List Line) : List (Segment × Line) :=
  (segments lines).flatMap fun segment => (flags.stripSegment segment).map (segment, ·)

/-- Whether a line is a context line made of a line of a block that does not become context as a
whole. -/
def Made (flags : Flags) (item : Segment × Line) : Prop :=
  ∃ block, item.1 = .block block ∧ flags.collapses block = false ∧ item.2.isContext = true

/-- Whether two lines are context lines of one block that becomes context as a whole and has more
added than removed lines, and `n` is the number of its last removed line. -/
def ShareLast (flags : Flags) (item later : Segment × Line) (n : Int) : Prop :=
  ∃ block, item.1 = .block block ∧ later.1 = .block block ∧ flags.collapses block = true ∧
    item.2.isContext = true ∧ later.2.isContext = true ∧
    block.removed.length < block.added.length ∧ n ∈ block.removed.getLast?.map Edit.number

lemma map_snd_traced (flags : Flags) (lines : List Line) :
    (flags.traced lines).map Prod.snd = flags.stripLines lines := by
  rw [traced, List.map_flatMap, stripLines]
  apply List.flatMap_congr
  intro segment _
  rw [List.map_map]
  exact List.map_id _

lemma mem_traced {flags : Flags} {lines : List Line} {item : Segment × Line} :
    item ∈ flags.traced lines ↔
      item.1 ∈ segments lines ∧ item.2 ∈ flags.stripSegment item.1 := by
  obtain ⟨segment, line⟩ := item
  simp [traced]

/-- What a single edit leaves under a number of the old version: itself, or a context line with the
number of its partner. -/
inductive LeavesOld (flags : Flags) (edit : Edit) : Int → Line → Prop where
  | kept (hside : edit.side = .old) (hfree : holds flags.lines edit = false) :
      LeavesOld flags edit edit.number edit.toLine
  | turned {old : Int} (hside : edit.side = .new) (hpartner : flags.partner? edit.number = some old)
      (hheld : old ∈ flags.lines.old) :
      LeavesOld flags edit old (.context edit.content old edit.number)

lemma leavesOld_of_mem {flags : Flags} {edit : Edit} {line : Line} {n : Int}
    (h : line ∈ flags.stripEdit edit) (hn : n ∈ line.numberIn .old) :
    LeavesOld flags edit n line := by
  unfold stripEdit at h
  split at h
  · split at h
    · cases h
    · next hside =>
      split at h
      · next old hpartner =>
        split at h
        · next hheld =>
          obtain rfl := List.mem_singleton.1 h
          obtain rfl : old = n := Option.some.inj hn
          exact .turned hside hpartner hheld
        · cases h
      · cases h
  · next hfree =>
    obtain rfl := List.mem_singleton.1 h
    obtain ⟨hside, rfl⟩ := Edit.mem_numberIn_toLine.1 hn
    exact .kept hside (by simpa using hfree)

/-- An edit leaves one line at most. -/
lemma pairwise_stripEdit (flags : Flags) (edit : Edit) (R : Line → Line → Prop) :
    (flags.stripEdit edit).Pairwise R := by
  unfold stripEdit
  split
  · split
    · exact .nil
    · split
      · split
        · exact List.pairwise_singleton _ _
        · exact .nil
      · exact .nil
  · exact List.pairwise_singleton _ _

end Flags

namespace Hunk

variable {hunk : Hunk} {config : Config} {path : Text} {block : Block}

/-! ## The numbers of a block in the old version -/

lemma removed_eq_of_number (hn : Numbered hunk.start hunk.lines) (hb : block ∈ blocks hunk.lines)
    {first second : Edit} (hf : first ∈ block.removed) (hs : second ∈ block.removed)
    (h : first.number = second.number) : first = second :=
  edit_eq_of_number hn (mem_edits.2 ⟨block, hb, (mem_removed.1 hf).1⟩)
    (mem_edits.2 ⟨block, hb, (mem_removed.1 hs).1⟩)
    ((mem_removed.1 hf).2.trans (mem_removed.1 hs).2.symm) h

/-- The partner of an added line is a removed line of its block. -/
lemma exists_partner (hn : Numbered hunk.start hunk.lines) (hb : block ∈ blocks hunk.lines)
    {edit : Edit} (he : edit ∈ block.added) {old : Int}
    (h : (hunk.flags (hunk.findings config path)).partner? edit.number = some old) :
    ∃ removed, ⟨removed, edit⟩ ∈ block.partners config (Dialect.ofPath path) ∧
      removed.number = old := by
  rw [partner?_eq hn hb he] at h
  obtain ⟨pair, hpair, hnumber⟩ := Option.map_eq_some_iff.1 h
  obtain ⟨hp, hadded⟩ := Block.mem_partners_of_pair? he hpair
  obtain ⟨hin, hside⟩ := mem_added.1 (Block.mem_of_mem_partners hp).2
  -- The pair was found by a number, and the number belongs to no other added line.
  have hsame : pair.added = edit :=
    edit_eq_of_number hn (mem_edits.2 ⟨block, hb, hin⟩)
      (mem_edits.2 ⟨block, hb, (mem_added.1 he).1⟩) (hside.trans (mem_added.1 he).2.symm) hadded
  exact ⟨pair.removed, hsame ▸ hp, hnumber⟩

/-- No two added lines of a block have the same partner. -/
lemma eq_of_partner?_eq (hn : Numbered hunk.start hunk.lines) (hb : block ∈ blocks hunk.lines)
    {first second : Edit} (hf : first ∈ block.added) (hs : second ∈ block.added) {old : Int}
    (h1 : (hunk.flags (hunk.findings config path)).partner? first.number = some old)
    (h2 : (hunk.flags (hunk.findings config path)).partner? second.number = some old) :
    first = second := by
  obtain ⟨removed, hp, rfl⟩ := exists_partner hn hb hf h1
  obtain ⟨removed', hp', hnumber⟩ := exists_partner hn hb hs h2
  obtain rfl := removed_eq_of_number hn hb (Block.mem_of_mem_partners hp).1
    (Block.mem_of_mem_partners hp').1 hnumber.symm
  have hnodup : ((block.partners config (Dialect.ofPath path)).map ChangePair.removed).Nodup :=
    Block.nodup_removed_partners (nodup_block hb)
  exact congrArg ChangePair.added (List.inj_on_of_nodup_map hnodup hp hp' rfl)

/-- No two edits of a block leave lines under the same number of the old version. -/
lemma eq_of_leavesOld (hn : Numbered hunk.start hunk.lines) (hb : block ∈ blocks hunk.lines)
    {first second : Edit} (hf : first ∈ block) (hs : second ∈ block) {n : Int} {line line' : Line}
    (h1 : Flags.LeavesOld (hunk.flags (hunk.findings config path)) first n line)
    (h2 : Flags.LeavesOld (hunk.flags (hunk.findings config path)) second n line') :
    first = second := by
  have hkept : ∀ {edit : Edit}, edit.side = .old →
      Flags.holds (hunk.flags (hunk.findings config path)).lines edit = false →
        ¬ edit.number ∈ (hunk.flags (hunk.findings config path)).lines.old := by
    intro edit hside hfree hmem
    have hheld : Flags.holds (hunk.flags (hunk.findings config path)).lines edit = true := by
      rw [Flags.holds_iff, hside]
      exact hmem
    rw [hfree] at hheld
    contradiction
  cases h1 with
  | kept hside hfree =>
    generalize hnumber : first.number = n at h2
    cases h2 with
    | kept hside' _ =>
      exact removed_eq_of_number hn hb (mem_removed.2 ⟨hf, hside⟩) (mem_removed.2 ⟨hs, hside'⟩)
        hnumber
    | turned _ _ hheld => exact absurd (hnumber ▸ hheld) (hkept hside hfree)
  | turned hside hpartner hheld =>
    cases h2 with
    | kept hside' hfree => exact absurd hheld (hkept hside' hfree)
    | turned hside' hpartner' _ =>
      exact eq_of_partner?_eq hn hb (mem_added.2 ⟨hf, hside⟩) (mem_added.2 ⟨hs, hside'⟩) hpartner
        hpartner'

/-- In a block as context only the number of the last removed line comes twice. -/
lemma pairwise_collapsed (hn : Numbered hunk.start hunk.lines) (hb : block ∈ blocks hunk.lines)
    (htwo : block.isTwoSided = true) :
    block.collapsed.Pairwise fun line later =>
      ∀ n ∈ line.numberIn .old, n ∈ later.numberIn .old →
        line.isContext = true ∧ later.isContext = true ∧
          block.removed.length < block.added.length ∧
          n ∈ block.removed.getLast?.map Edit.number := by
  have hne := (Block.isTwoSided_iff.1 htwo).1
  have hremoved : block.removed.Nodup := (nodup_block hb).filter _
  have hpositive := List.length_pos_iff.2 hne
  rw [List.pairwise_iff_getElem]
  intro i j hi hj hij n hfirst hlater
  obtain ⟨old, new, ho, -, hline⟩ :=
    Block.exists_of_getElem?_collapsed hne (List.getElem?_eq_getElem hi)
  obtain ⟨old', new', ho', -, hline'⟩ :=
    Block.exists_of_getElem?_collapsed hne (List.getElem?_eq_getElem hj)
  rw [hline] at hfirst ⊢
  rw [hline'] at hlater ⊢
  have hnumber : old.number = n := Option.some.inj hfirst
  have hnumber' : old'.number = n := Option.some.inj hlater
  have hsame : old = old' :=
    removed_eq_of_number hn hb (List.mem_of_getElem? ho) (List.mem_of_getElem? ho')
      (hnumber.trans hnumber'.symm)
  -- Two places have the same removed line only if the first of them has reached the last one.
  have hplaces : min i (block.removed.length - 1) = min j (block.removed.length - 1) :=
    (List.getElem?_inj (List.getElem?_eq_some_iff.1 ho).1 hremoved).1 (by rw [ho, ho', hsame])
  rw [Block.length_collapsed hne] at hj
  have hlast : min i (block.removed.length - 1) = block.removed.length - 1 := by omega
  refine ⟨rfl, rfl, by omega, ?_⟩
  rw [hlast] at ho
  rw [List.getLast?_eq_getElem?, ho]
  exact congrArg some hnumber

/-- In any other block no number comes twice. -/
lemma pairwise_flatMap_stripEdit (hn : Numbered hunk.start hunk.lines)
    (hb : block ∈ blocks hunk.lines) :
    (block.flatMap (hunk.flags (hunk.findings config path)).stripEdit).Pairwise fun line later =>
      ∀ n ∈ line.numberIn .old, n ∉ later.numberIn .old := by
  rw [List.pairwise_flatMap]
  refine ⟨fun edit _ => Flags.pairwise_stripEdit _ edit _, ?_⟩
  apply List.Pairwise.imp_of_mem ?_ (nodup_block hb)
  intro edit other he ho hne line hl later hl' n hfirst hlater
  exact hne (eq_of_leavesOld hn hb he ho (Flags.leavesOld_of_mem hl hfirst)
    (Flags.leavesOld_of_mem hl' hlater))

/-! ## The numbers of a segment in the old version -/

/-- A line that is left of a segment has its number in the old version from a line of the
segment. -/
lemma exists_line_of_mem_stripSegment (hn : Numbered hunk.start hunk.lines) {segment : Segment}
    (hs : segment ∈ segments hunk.lines) {line : Line}
    (hl : line ∈ (hunk.flags (hunk.findings config path)).stripSegment segment) {n : Int}
    (hnumber : n ∈ line.numberIn .old) :
    ∃ original ∈ segment.toLines, n ∈ original.numberIn .old := by
  cases segment with
  | context content old new => exact ⟨line, hl, hnumber⟩
  | block block =>
    have hb := mem_blocks.2 hs
    have hedit : ∀ {edit : Edit}, edit ∈ block.removed → edit.number = n →
        ∃ original ∈ (Segment.block block).toLines, n ∈ original.numberIn .old := by
      intro edit he heq
      obtain ⟨hin, hside⟩ := mem_removed.1 he
      exact ⟨edit.toLine, List.mem_map_of_mem hin, Edit.mem_numberIn_toLine.2 ⟨hside, heq⟩⟩
    rw [Flags.stripSegment, Flags.stripBlock] at hl
    split at hl
    · next hwhole =>
      rw [Flags.collapses, Bool.and_eq_true, Block.isTwoSided_iff] at hwhole
      obtain ⟨k, hk⟩ := List.mem_iff_getElem?.1 hl
      obtain ⟨old, new, ho, -, rfl⟩ := Block.exists_of_getElem?_collapsed hwhole.2.1 hk
      exact hedit (List.mem_of_getElem? ho) (Option.some.inj hnumber)
    · obtain ⟨edit, he, hedge⟩ := List.mem_flatMap.1 hl
      cases Flags.leavesOld_of_mem hedge hnumber with
      | kept hside _ => exact hedit (mem_removed.2 ⟨he, hside⟩) rfl
      | turned hside hpartner _ =>
        obtain ⟨removed, hp, heq⟩ := exists_partner hn hb (mem_added.2 ⟨he, hside⟩) hpartner
        exact hedit (Block.mem_of_mem_partners hp).1 heq

/-- Two lines that are left and share a number of the old version come from one block that becomes
context as a whole. -/
lemma pairwise_traced (config : Config) (path : Text) (hn : Numbered hunk.start hunk.lines) :
    ((hunk.flags (hunk.findings config path)).traced hunk.lines).Pairwise fun item later =>
      ∀ n ∈ item.2.numberIn .old, n ∈ later.2.numberIn .old →
        (hunk.flags (hunk.findings config path)).ShareLast item later n := by
  rw [Flags.traced, List.pairwise_flatMap]
  constructor
  · intro segment hs
    rw [List.pairwise_map]
    cases segment with
    | context content old new => exact List.pairwise_singleton _ _
    | block block =>
      have hb := mem_blocks.2 hs
      rw [Flags.stripSegment, Flags.stripBlock]
      split
      · next hwhole =>
        have htwo := hwhole
        rw [Flags.collapses, Bool.and_eq_true] at htwo
        apply (pairwise_collapsed hn hb htwo.2).imp
        intro line later hshare n hfirst hlater
        exact ⟨block, rfl, rfl, hwhole, hshare n hfirst hlater⟩
      · apply (pairwise_flatMap_stripEdit hn hb).imp
        intro line later hnot n hfirst hlater
        exact absurd hlater (hnot n hfirst)
  · -- The numbers of two segments ascend.
    have hascend := hn.pairwise_numberIn
    rw [← Segment.flatMap_toLines_segmentsFrom 0 hunk.lines, List.pairwise_flatMap] at hascend
    apply List.Pairwise.imp_of_mem ?_ hascend.2
    intro segment other hs ho hlt item hitem later hlater n hfirst hsecond
    obtain ⟨line, hl, rfl⟩ := List.mem_map.1 hitem
    obtain ⟨line', hl', rfl⟩ := List.mem_map.1 hlater
    obtain ⟨original, horiginal, hnumber⟩ := exists_line_of_mem_stripSegment hn hs hl hfirst
    obtain ⟨original', horiginal', hnumber'⟩ := exists_line_of_mem_stripSegment hn ho hl' hsecond
    exact absurd (hlt _ horiginal _ horiginal' .old n hnumber n hnumber') (Int.lt_irrefl n)

/-! ## Context lines that are made -/

/-- A context line that is made has the number of a removed line of its block which is flagged as a
single line. -/
lemma exists_removed_of_made (hn : Numbered hunk.start hunk.lines) {item : Segment × Line}
    (hitem : item ∈ (hunk.flags (hunk.findings config path)).traced hunk.lines)
    (hmade : (hunk.flags (hunk.findings config path)).Made item) :
    ∃ block ∈ blocks hunk.lines, item.1 = .block block ∧
      (hunk.flags (hunk.findings config path)).collapses block = false ∧
      ∃ old ∈ block.removed, item.2.numberIn .old = some old.number ∧
        Flags.holds (hunk.flags (hunk.findings config path)).lines old = true := by
  obtain ⟨segment, line⟩ := item
  obtain ⟨hs, hl⟩ := Flags.mem_traced.1 hitem
  obtain ⟨block, rfl, hpart, hcontext⟩ := hmade
  have hb := mem_blocks.2 hs
  rw [Flags.stripSegment, Flags.stripBlock, hpart, if_neg Bool.false_ne_true] at hl
  obtain ⟨edit, he, hedge⟩ := List.mem_flatMap.1 hl
  obtain ⟨n, hnumber⟩ : ∃ n, line.numberIn .old = some n := by
    cases line with
    | context content old new => exact ⟨old, rfl⟩
    | removed | added => cases hcontext
  refine ⟨block, hb, rfl, hpart, ?_⟩
  cases Flags.leavesOld_of_mem hedge hnumber with
  | kept hside _ =>
    have hkept : edit.toLine.isContext = true := hcontext
    rw [Edit.isContext_toLine] at hkept
    contradiction
  | turned hside hpartner hheld =>
    obtain ⟨removed, hp, rfl⟩ := exists_partner hn hb (mem_added.2 ⟨he, hside⟩) hpartner
    have hremoved := (Block.mem_of_mem_partners hp).1
    refine ⟨removed, hremoved, rfl, ?_⟩
    rw [Flags.holds_iff, (mem_removed.1 hremoved).2]
    exact hheld

/-- A removed line that is flagged is not among the lines that are left. -/
lemma not_mem_stripLines_of_holds (hn : Numbered hunk.start hunk.lines)
    (hb : block ∈ blocks hunk.lines)
    (hpart : (hunk.flags (hunk.findings config path)).collapses block = false) {old : Edit}
    (ho : old ∈ block.removed)
    (hheld : Flags.holds (hunk.flags (hunk.findings config path)).lines old = true)
    (content : Text) :
    .removed content old.number ∉
      (hunk.flags (hunk.findings config path)).stripLines hunk.lines := by
  intro hmem
  obtain ⟨hin, hside⟩ := mem_removed.1 ho
  have hchange : Line.removed content old.number ∈
      changesOf ((hunk.flags (hunk.findings config path)).stripLines hunk.lines) :=
    List.mem_filter.2 ⟨hmem, rfl⟩
  rw [changesOf_stripLines hn, survivors, unflagged, List.mem_filter] at hchange
  have hsame : Line.removed content old.number = old.toLine :=
    hn.line_eq_of_numberIn hchange.1 (toLine_mem (mem_edits.2 ⟨block, hb, hin⟩)) rfl
      (Edit.mem_numberIn_toLine.2 ⟨hside, rfl⟩)
  rw [hsame, Edit.isFlagged_toLine, holds_flagged_iff_of_not_collapses hn hb hpart hin, hheld]
    at hchange
  simp at hchange

end Hunk

/-- In a diff that was read, let a hunk be kept with whatever categories.  The numbers of the new
version ascend along the lines that are left.  A context line that is made of a line of a block,
the blocks that become context as a whole aside, has the number of a removed line of that block; the
removed line is gone, and no context line of the hunk had its number.  No two context lines made so
share a number of the old version.  Altogether two lines that are left share such a number only if
they are context lines of one block that became context as a whole and has more added than removed
lines, and the number is that of its last removed line. -/
theorem no_removed_line_is_used_twice {text : Text} {files : List File}
    (h : readDiff text = .ok files) {file : File} (hf : file ∈ files) {hunk : Hunk}
    (hh : hunk ∈ file.hunks) (config : Config) (path : Text) {left : Hunk}
    (hleft : (hunk.sieve (hunk.findings config path)).hunk = some left) :
    let flags := hunk.flags (hunk.findings config path)
    let traced := flags.traced hunk.lines
    left.lines = traced.map Prod.snd ∧
    (newSide left.lines).Pairwise (·.2 < ·.2) ∧
    (∀ item ∈ traced, flags.Made item →
      ∃ block ∈ blocks hunk.lines, item.1 = .block block ∧
        ∃ old ∈ block.removed, item.2.numberIn .old = some old.number ∧
          (∀ content, .removed content old.number ∉ left.lines) ∧
          ∀ line ∈ hunk.lines, line.isContext = true → line.numberIn .old ≠ some old.number) ∧
    traced.Pairwise (fun item later => flags.Made item → flags.Made later →
      item.2.numberIn .old ≠ later.2.numberIn .old) ∧
    traced.Pairwise fun item later =>
      ∀ n ∈ item.2.numberIn .old, n ∈ later.2.numberIn .old → flags.ShareLast item later n := by
  intro flags traced
  have hn := (isCounted_of_readDiff h hf hh).numbered
  have hlines := Hunk.lines_of_sieve hleft
  have hshare := Hunk.pairwise_traced config path hn
  refine ⟨hlines.trans (flags.map_snd_traced hunk.lines).symm, ?_, ?_, ?_, hshare⟩
  · rw [hlines, Flags.newSide_stripLines]
    exact pairwise_newSide_without hn _
  · intro item hitem hmade
    obtain ⟨block, hb, hblock, hpart, old, ho, hnumber, hheld⟩ :=
      Hunk.exists_removed_of_made hn hitem hmade
    refine ⟨block, hb, hblock, old, ho, hnumber, ?_, ?_⟩
    · intro content
      rw [hlines]
      exact Hunk.not_mem_stripLines_of_holds hn hb hpart ho hheld content
    · intro line hl hcontext hsame
      obtain ⟨hin, hside⟩ := mem_removed.1 ho
      rw [hn.line_eq_of_numberIn hl (toLine_mem (mem_edits.2 ⟨block, hb, hin⟩)) hsame
        (Edit.mem_numberIn_toLine.2 ⟨hside, rfl⟩), Edit.isContext_toLine] at hcontext
      contradiction
  · apply List.Pairwise.imp_of_mem ?_ hshare
    intro item later hitem _ hlast hmade _ hsame
    obtain ⟨block, -, hblock, hpart, old, -, hnumber, -⟩ :=
      Hunk.exists_removed_of_made hn hitem hmade
    obtain ⟨block', hblock', -, hwhole, -⟩ := hlast old.number hnumber (hsame ▸ hnumber)
    obtain rfl := Segment.block.inj (hblock.symm.trans hblock')
    rw [hpart] at hwhole
    contradiction

/-- Of the two blocks of that diff the second one becomes context line by line: the fourth removed
line gives its number to a context line and is gone. -/
theorem used_once_in_wrapText :
    let found := wrapHunk.findings { whitespace := true, lineWrap := true } wrapFile.path
    readDiff wrapText = .ok [wrapFile] ∧
    ∃ left, (wrapHunk.sieve found).hunk = some left ∧
      .context "a  = 1".toList 4 5 ∈ left.lines ∧
      (newSide left.lines).Pairwise (·.2 < ·.2) ∧
      (∀ content, .removed content 4 ∉ left.lines) ∧
      ∀ line ∈ wrapHunk.lines, line.isContext = true → line.numberIn .old ≠ some 4 := by
  intro found
  let block : Block :=
    [⟨6, .old, "a = 1".toList, 4⟩, ⟨7, .old, ['x'], 5⟩, ⟨8, .new, "a  = 1".toList, 5⟩,
      ⟨9, .new, ['y'], 6⟩]
  obtain ⟨left, hleft⟩ := Option.isSome_iff_exists.1
    (show (wrapHunk.sieve found).hunk.isSome = true by decide +kernel)
  obtain ⟨hlines, hascend, hmade, -⟩ := no_removed_line_is_used_twice readDiff_wrapText
    (List.mem_singleton_self _) (List.mem_singleton_self wrapHunk) _ _ hleft
  have hitem : (.block block, .context "a  = 1".toList 4 5) ∈
      (wrapHunk.flags found).traced wrapHunk.lines := by decide +kernel
  obtain ⟨-, -, -, old, -, hnumber, hgone, hcontext⟩ :=
    hmade _ hitem ⟨block, rfl, by decide +kernel, rfl⟩
  obtain hold : 4 = old.number := Option.some.inj hnumber
  rw [← hold] at hgone hcontext
  refine ⟨readDiff_wrapText, left, hleft, ?_, hascend, hgone, hcontext⟩
  rw [hlines]
  exact List.mem_map_of_mem hitem

end DiffSieve
