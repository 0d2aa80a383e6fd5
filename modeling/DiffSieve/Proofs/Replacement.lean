import DiffSieve.Proofs.Flagging
import DiffSieve.Proofs.Reader
import Mathlib.Data.List.Nodup

/-!
# Flagged lines and what takes their place

Outside the blocks that become context as a whole, a flagged added line comes back as context if
the removed line it belongs to is flagged too.  A flagged line that no context line stands for is
gone without a trace, and the main result of this file says that nothing but a blank line or a
comment line can go that way.

A detector that asks about pairs flags both lines, but the pair may be overridden: the pairs by
content that come with reordered imports take precedence over the pairs by rank.  Such a pair
belongs to a block all of whose lines are flagged, and its pairs by content use up both sides of
the block (`matchStatements_perm`), so whoever loses a partner gets another flagged one.

Matching by content takes the first added line that is not yet used, one removed line after the
other.  For each statement alone this is matching by rank (`filter_matchStatements`), so that no
side leads: a removed and an added line are matched exactly if they have the same rank among the
lines of their version that make one statement (`mem_matchStatements_iff`).
-/

namespace DiffSieve

/-! ## Matching by content -/

/-- What an edit states: its text, white space at the ends left aside. -/
def Edit.statement (edit : Edit) : Text :=
  Text.trim edit.content

namespace Detection

lemma sameStatement_iff {edit other : Edit} :
    sameStatement edit other = true ↔ other.statement = edit.statement := by
  rw [sameStatement, beq_iff_eq]
  exact eq_comm

/-- The partner that is found is the first one of its statement, and it is the one that is
erased. -/
lemma exists_of_find?_sameStatement {edit partner : Edit} {added : List Edit}
    (h : added.find? (sameStatement edit) = some partner) :
    ∃ before after, added = before ++ partner :: after ∧
      partner.statement = edit.statement ∧
      (∀ other ∈ before, other.statement ≠ edit.statement) ∧
      added.eraseP (sameStatement edit) = before ++ after := by
  obtain ⟨hsame, before, after, rfl, hbefore⟩ := List.find?_eq_some_iff_append.1 h
  have hnone : ∀ other ∈ before, ¬ sameStatement edit other = true := by
    intro other ho
    simpa using hbefore other ho
  refine ⟨before, after, rfl, sameStatement_iff.1 hsame, ?_, ?_⟩
  · exact fun other ho hstatement => hnone other ho (sameStatement_iff.2 hstatement)
  · rw [List.eraseP_append_right _ hnone, List.eraseP_cons_of_pos hsame]

lemma find?_sameStatement {edit partner : Edit} {added : List Edit}
    (h : added.find? (sameStatement edit) = some partner) :
    Text.trim edit.content = Text.trim partner.content ∧
      added.Perm (partner :: added.eraseP (sameStatement edit)) := by
  obtain ⟨before, after, hadded, hsame, -, herase⟩ := exists_of_find?_sameStatement h
  rw [herase, hadded]
  exact ⟨hsame.symm, List.perm_middle⟩

/-- Matching by content uses up both sides if they hold the same statements. -/
lemma matchStatements_perm {removed added : List Edit}
    (h : (removed.map (Text.trim ·.content)).Perm (added.map (Text.trim ·.content))) :
    (matchStatements removed added).map ChangePair.removed = removed ∧
      ((matchStatements removed added).map ChangePair.added).Perm added := by
  induction removed generalizing added with
  | nil =>
    have hnil : added = [] := by simpa using h.symm
    subst hnil
    simp [matchStatements]
  | cons edit rest ih =>
    have hmem : Text.trim edit.content ∈ added.map (Text.trim ·.content) :=
      h.subset (by simp)
    obtain ⟨other, ho, hsame⟩ := List.mem_map.1 hmem
    have hsome : (added.find? (sameStatement edit)).isSome = true :=
      List.find?_isSome.2 ⟨other, ho, by simp [sameStatement, hsame]⟩
    obtain ⟨partner, hfind⟩ := Option.isSome_iff_exists.1 hsome
    obtain ⟨htrim, hperm⟩ := find?_sameStatement hfind
    have hrest : (rest.map (Text.trim ·.content)).Perm
        ((added.eraseP (sameStatement edit)).map (Text.trim ·.content)) := by
      have hboth := h.trans (hperm.map (Text.trim ·.content))
      rw [List.map_cons, List.map_cons, htrim] at hboth
      exact hboth.cons_inv
    obtain ⟨hremoved, hadded⟩ := ih hrest
    rw [matchStatements, hfind]
    constructor
    · simp [hremoved]
    · exact (hadded.cons partner).trans hperm.symm

/-- The statements of a reordered block are the same on both sides. -/
lemma perm_of_blockTest {dialect : Dialect} {block : Block}
    (h : blockTest dialect .importOrder block = true) :
    ((Block.removed block).map (Text.trim ·.content)).Perm
      ((Block.added block).map (Text.trim ·.content)) := by
  simp only [blockTest, isReordering, Bool.and_eq_true] at h
  exact List.isPerm_iff.1 h.2.2

/-- The pairs by content of a reordered block take their lines from it. -/
lemma mem_of_mem_matchStatements {dialect : Dialect} {block : Block} {pair : ChangePair}
    (h : blockTest dialect .importOrder block = true)
    (hp : pair ∈ matchStatements (Block.removed block) (Block.added block)) :
    pair.removed ∈ Block.removed block ∧ pair.added ∈ Block.added block := by
  obtain ⟨hremoved, hadded⟩ := matchStatements_perm (perm_of_blockTest h)
  constructor
  · rw [← hremoved]
    exact List.mem_map_of_mem hp
  · exact hadded.subset (List.mem_map_of_mem hp)

lemma mem_pairs_ofImports {dialect : Dialect} {lines : List Line} {pair : ChangePair} :
    pair ∈ (ofImports dialect lines).pairs ↔
      ∃ block ∈ blocks lines, blockTest dialect .importOrder block = true ∧
        pair ∈ matchStatements (Block.removed block) (Block.added block) := by
  cases h : dialect.importsMayMove <;> simp [ofImports, ofEdits, blockTest, h, and_assoc]

end Detection

/-! ## Matching by rank -/

/-- The edits that make a statement. -/
def making (statement : Text) (edits : List Edit) : List Edit :=
  edits.filter (·.statement = statement)

namespace Detection

/-- Erasing the partner of an edit takes the first edit of their statement away. -/
lemma making_statement_eq_cons {edit partner : Edit} {added : List Edit}
    (h : added.find? (sameStatement edit) = some partner) :
    making edit.statement added =
      partner :: making edit.statement (added.eraseP (sameStatement edit)) := by
  obtain ⟨before, after, hadded, hsame, hbefore, herase⟩ := exists_of_find?_sameStatement h
  have hnone : making edit.statement before = [] := by
    rw [making, List.filter_eq_nil_iff]
    intro other ho hstatement
    exact hbefore other ho (by simpa using hstatement)
  rw [herase, hadded]
  unfold making at hnone ⊢
  rw [List.filter_append, List.filter_append, hnone, List.filter_cons_of_pos (by simpa using hsame)]
  rfl

/-- Erasing an edit leaves alone the edits that make another statement. -/
lemma making_eraseP {edit : Edit} {statement : Text} (h : edit.statement ≠ statement)
    (added : List Edit) :
    making statement (added.eraseP (sameStatement edit)) = making statement added := by
  induction added with
  | nil => rfl
  | cons other rest ih =>
    by_cases hsame : sameStatement edit other = true
    · rw [List.eraseP_cons_of_pos hsame]
      refine (List.filter_cons_of_neg ?_).symm
      rw [sameStatement_iff.1 hsame]
      simpa using h
    · rw [List.eraseP_cons_of_neg hsame]
      unfold making at ih ⊢
      rw [List.filter_cons, List.filter_cons, ih]

lemma making_eq_nil {edit : Edit} {added : List Edit}
    (h : added.find? (sameStatement edit) = none) : making edit.statement added = [] := by
  rw [making, List.filter_eq_nil_iff]
  intro other ho hstatement
  exact List.find?_eq_none.1 h other ho (sameStatement_iff.2 (by simpa using hstatement))

/-- Statement by statement, matching goes by rank. -/
lemma filter_matchStatements (statement : Text) (removed added : List Edit) :
    (matchStatements removed added).filter (·.removed.statement = statement) =
      List.zipWith ChangePair.mk (making statement removed) (making statement added) := by
  induction removed generalizing added with
  | nil => rfl
  | cons edit rest ih =>
    by_cases h : edit.statement = statement
    · have hmaking : making statement (edit :: rest) = edit :: making statement rest :=
        List.filter_cons_of_pos (by simpa using h)
      subst h
      cases hfind : added.find? (sameStatement edit) with
      | none =>
        rw [matchStatements, hfind, ih, hmaking, making_eq_nil hfind, List.zipWith_nil_right,
          List.zipWith_nil_right]
      | some partner =>
        rw [matchStatements, hfind, List.filter_cons_of_pos (by simp), ih, hmaking,
          making_statement_eq_cons hfind, List.zipWith_cons_cons]
    · -- The partner is erased, but it does not make this statement either.
      have hmaking : making statement (edit :: rest) = making statement rest :=
        List.filter_cons_of_neg (by simpa using h)
      cases hfind : added.find? (sameStatement edit) with
      | none => rw [matchStatements, hfind, ih, hmaking]
      | some partner =>
        rw [matchStatements, hfind, List.filter_cons_of_neg (by simpa using h), ih, hmaking,
          making_eraseP h]

/-- A pair is matched exactly if its lines have the same rank among those that make a statement. -/
lemma mem_matchStatements_iff {removed added : List Edit} {pair : ChangePair} :
    pair ∈ matchStatements removed added ↔
      ∃ (statement : Text) (k : Nat), (making statement removed)[k]? = some pair.removed ∧
        (making statement added)[k]? = some pair.added := by
  constructor
  · intro hp
    have hmem : pair ∈ (matchStatements removed added).filter
        (·.removed.statement = pair.removed.statement) := List.mem_filter.2 ⟨hp, by simp⟩
    rw [filter_matchStatements] at hmem
    exact ⟨_, ChangePair.mem_zipWith.1 hmem⟩
  · rintro ⟨statement, hk⟩
    have hmem := ChangePair.mem_zipWith.2 hk
    rw [← filter_matchStatements] at hmem
    exact (List.mem_filter.1 hmem).1

lemma statement_eq_of_mem_matchStatements {removed added : List Edit} {pair : ChangePair}
    (h : pair ∈ matchStatements removed added) :
    pair.removed.statement = pair.added.statement := by
  obtain ⟨statement, k, hr, ha⟩ := mem_matchStatements_iff.1 h
  have hremoved := (List.mem_filter.1 (List.mem_of_getElem? hr)).2
  have hadded := (List.mem_filter.1 (List.mem_of_getElem? ha)).2
  rw [decide_eq_true_eq] at hremoved hadded
  rw [hremoved, hadded]

end Detection

/-! ## Looking up a partner -/

section

variable {next : Sides Int} {lines : List Line} {pairs : List ChangePair} {pair : ChangePair}

lemma findRev?_eq_none_iff {n : Int} :
    pairs.findRev? (·.added.number = n) = none ↔ ∀ p ∈ pairs, p.added.number ≠ n := by
  simp [List.findRev?_eq_find?_reverse]

lemma of_findRev?_eq_some {n : Int} (h : pairs.findRev? (·.added.number = n) = some pair) :
    pair ∈ pairs ∧ pair.added.number = n := by
  rw [List.findRev?_eq_find?_reverse] at h
  exact ⟨List.mem_reverse.1 (List.mem_of_find?_eq_some h), by simpa using List.find?_some h⟩

/-- Among pairs of a numbered hunk that share no added line, a pair is found by the number of its
added line. -/
lemma findRev?_eq_some (hn : Numbered next lines) (hw : ∀ p ∈ pairs, p.Within lines)
    (hu : ∀ p ∈ pairs, ∀ q ∈ pairs, p.added = q.added → p = q) (h : pair ∈ pairs) :
    pairs.findRev? (·.added.number = pair.added.number) = some pair := by
  cases hfind : pairs.findRev? (·.added.number = pair.added.number) with
  | none => exact absurd rfl (findRev?_eq_none_iff.1 hfind pair h)
  | some other =>
    obtain ⟨hmem, hnumber⟩ := of_findRev?_eq_some hfind
    have hadded := (hw other hmem).added_eq hn (hw pair h) hnumber
    rw [hu other hmem pair h hadded]

lemma findRev?_eq_none (hn : Numbered next lines) (hw : ∀ p ∈ pairs, p.Within lines)
    {edit : Edit} (he : edit ∈ edits lines) (hs : edit.side = .new)
    (h : ∀ other ∈ pairs, other.added ≠ edit) :
    pairs.findRev? (·.added.number = edit.number) = none := by
  rw [findRev?_eq_none_iff]
  intro other ho hnumber
  have hother := hw other ho
  exact h other ho (edit_eq_of_number hn hother.added_mem he (hother.added_side.trans hs.symm)
    hnumber)

end

namespace Hunk

open Detection

variable {hunk : Hunk} {config : Config} {path : Text} {pair : ChangePair}

/-- The pairs by content that come with some findings. -/
def contentPairs (found : List Finding) : List ChangePair :=
  found.flatMap fun finding => finding.detection.pairs

lemma pairs_flags (hunk : Hunk) (found : List Finding) :
    (hunk.flags found).pairs = changePairs hunk.lines ++ contentPairs found := by
  simp [flags, Flags.ofDetections, contentPairs, List.flatMap_map]

/-- A pair by content belongs to a block in which only the order of imports changed. -/
lemma mem_contentPairs (h : pair ∈ contentPairs (hunk.findings config path)) :
    config.ignores .importOrder = true ∧
      ∃ block ∈ blocks hunk.lines, blockTest (Dialect.ofPath path) .importOrder block = true ∧
        pair ∈ matchStatements (Block.removed block) (Block.added block) := by
  obtain ⟨finding, hf, hp⟩ := List.mem_flatMap.1 h
  obtain ⟨hc, hd, -⟩ := mem_findings.1 hf
  rw [hd] at hp
  cases hcat : finding.category with
  | importOrder =>
    rw [hcat] at hp hc
    exact ⟨hc, mem_pairs_ofImports.1 hp⟩
  | _ =>
    rw [hcat] at hp
    cases hp

lemma mem_contentPairs_of_mem {block : Block} (hn : Numbered hunk.start hunk.lines)
    (hc : config.ignores .importOrder = true) (hb : block ∈ blocks hunk.lines)
    (ht : blockTest (Dialect.ofPath path) .importOrder block = true)
    (hp : pair ∈ matchStatements (Block.removed block) (Block.added block)) :
    pair ∈ contentPairs (hunk.findings config path) := by
  have hin := (mem_removed.1 (mem_of_mem_matchStatements ht hp).1).1
  have hflagged : pair.removed ∈ flaggedEdits (Dialect.ofPath path) hunk.lines .importOrder :=
    mem_flaggedEdits.2 (.inr (.inr ⟨block, hb, ht, hin⟩))
  have hholds := (holds_flagged_iff hn (mem_edits.2 ⟨block, hb, hin⟩)).2 hflagged
  refine List.mem_flatMap.2 ⟨⟨.importOrder, _⟩, ?_, mem_pairs_ofImports.2 ⟨block, hb, ht, hp⟩⟩
  exact mem_findings.2 ⟨hc, rfl, isNonempty_of_holds hholds⟩

/-- No added line is in two pairs by content. -/
lemma contentPair_eq_of_added {first second : ChangePair}
    (hf : first ∈ contentPairs (hunk.findings config path))
    (hs : second ∈ contentPairs (hunk.findings config path)) (h : first.added = second.added) :
    first = second := by
  obtain ⟨-, block, hb, ht, hp⟩ := mem_contentPairs hf
  obtain ⟨-, block', hb', ht', hp'⟩ := mem_contentPairs hs
  have hin := (mem_added.1 (mem_of_mem_matchStatements ht hp).2).1
  have hin' := (mem_added.1 (mem_of_mem_matchStatements ht' hp').2).1
  rw [← h] at hin'
  obtain rfl := block_eq_of_mem hb hb' hin hin'
  have hperm := (matchStatements_perm (perm_of_blockTest ht)).2
  have hnodup : (Block.added block).Nodup := (nodup_block hb).filter _
  exact List.inj_on_of_nodup_map (hperm.symm.nodup hnodup) hp hp' h

lemma within_of_mem_contentPairs (h : pair ∈ contentPairs (hunk.findings config path)) :
    pair.Within hunk.lines := by
  obtain ⟨-, block, hb, ht, hp⟩ := mem_contentPairs h
  obtain ⟨hr, ha⟩ := mem_of_mem_matchStatements ht hp
  exact ChangePair.within_of_mem hb hr ha

lemma partner?_flags (hunk : Hunk) (found : List Finding) (number : Int) :
    (hunk.flags found).partner? number =
      (((contentPairs found).findRev? (·.added.number = number)).or
        ((changePairs hunk.lines).findRev? (·.added.number = number))).map (·.removed.number) := by
  rw [Flags.partner?, pairs_flags]
  simp only [List.findRev?_eq_find?_reverse, List.reverse_append, List.find?_append]

/-- The partner by content is the one that counts. -/
lemma partner?_of_contentPair (hn : Numbered hunk.start hunk.lines)
    (h : pair ∈ contentPairs (hunk.findings config path)) :
    (hunk.flags (hunk.findings config path)).partner? pair.added.number =
      some pair.removed.number := by
  have hfind := findRev?_eq_some hn (fun p hp => within_of_mem_contentPairs hp)
    (fun p hp q hq => contentPair_eq_of_added hp hq) h
  rw [partner?_flags, hfind]
  rfl

/-- The partner by rank counts for a line without a partner by content. -/
lemma partner?_of_changePair (hn : Numbered hunk.start hunk.lines)
    (h : pair ∈ changePairs hunk.lines)
    (hnone : ∀ other ∈ contentPairs (hunk.findings config path), other.added ≠ pair.added) :
    (hunk.flags (hunk.findings config path)).partner? pair.added.number =
      some pair.removed.number := by
  have hpair := ChangePair.within_of_mem_changePairs h
  have hcontent := findRev?_eq_none hn (fun p hp => within_of_mem_contentPairs hp)
    hpair.added_mem hpair.added_side hnone
  have hfind := findRev?_eq_some hn (fun p hp => ChangePair.within_of_mem_changePairs hp)
    (fun p hp q hq => pair_eq_of_added hp hq) h
  rw [partner?_flags, hcontent, hfind]
  rfl

/-! ## Replacement -/

/-- Whether a context line stands for a flagged edit: it belongs to a flagged removed line and a
flagged added line that are partners. -/
def Replaced (flags : Flags) (edit : Edit) : Prop :=
  ∃ old ∈ flags.lines.old, ∃ new ∈ flags.lines.new, flags.partner? new = some old ∧
    edit.number = match edit.side with
      | .old => old
      | .new => new

lemma replaced_of_pair {flags : Flags} (hw : pair.Within hunk.lines)
    (hr : Flags.holds flags.lines pair.removed = true)
    (ha : Flags.holds flags.lines pair.added = true)
    (hp : flags.partner? pair.added.number = some pair.removed.number) :
    Replaced flags pair.removed ∧ Replaced flags pair.added := by
  simp only [Flags.holds, hw.removed_side, decide_eq_true_eq] at hr
  simp only [Flags.holds, hw.added_side, decide_eq_true_eq] at ha
  constructor
  · exact ⟨_, hr, _, ha, hp, by rw [hw.removed_side]⟩
  · exact ⟨_, hr, _, ha, hp, by rw [hw.added_side]⟩

/-- Every line of a block in which only the order of imports changed is flagged as a single line. -/
lemma holds_lines_of_reordered (hn : Numbered hunk.start hunk.lines)
    (hc : config.ignores .importOrder = true) {block : Block} (hb : block ∈ blocks hunk.lines)
    (ht : blockTest (Dialect.ofPath path) .importOrder block = true) {edit : Edit}
    (he : edit ∈ block) :
    Flags.holds (hunk.flags (hunk.findings config path)).lines edit = true := by
  refine (holds_lines_iff hn (mem_edits.2 ⟨block, hb, he⟩)).2 ⟨.importOrder, hc, by simp, ?_⟩
  exact mem_flaggedEdits.2 (.inr (.inr ⟨block, hb, ht, he⟩))

/-- Every line of a block in which only the order of imports changed is replaced. -/
lemma replaced_of_reordered (hn : Numbered hunk.start hunk.lines)
    (hc : config.ignores .importOrder = true) {block : Block} (hb : block ∈ blocks hunk.lines)
    (ht : blockTest (Dialect.ofPath path) .importOrder block = true) {edit : Edit}
    (he : edit ∈ block) :
    Replaced (hunk.flags (hunk.findings config path)) edit := by
  obtain ⟨hremoved, hadded⟩ := matchStatements_perm (perm_of_blockTest ht)
  have hflagged : ∀ e ∈ block,
      Flags.holds (hunk.flags (hunk.findings config path)).lines e = true :=
    fun _ hin => holds_lines_of_reordered hn hc hb ht hin
  have hpair : ∀ p ∈ matchStatements (Block.removed block) (Block.added block),
      Replaced (hunk.flags (hunk.findings config path)) p.removed ∧
        Replaced (hunk.flags (hunk.findings config path)) p.added := by
    intro p hp
    obtain ⟨hr, ha⟩ := mem_of_mem_matchStatements ht hp
    exact replaced_of_pair (ChangePair.within_of_mem hb hr ha)
      (hflagged _ (mem_removed.1 hr).1) (hflagged _ (mem_added.1 ha).1)
      (partner?_of_contentPair hn (mem_contentPairs_of_mem hn hc hb ht hp))
  cases hside : edit.side with
  | old =>
    have hmem : edit ∈ Block.removed block := mem_removed.2 ⟨he, hside⟩
    rw [← hremoved] at hmem
    obtain ⟨p, hp, rfl⟩ := List.mem_map.1 hmem
    exact (hpair p hp).1
  | new =>
    have hmem := hadded.mem_iff.2 (mem_added.2 ⟨he, hside⟩)
    obtain ⟨p, hp, rfl⟩ := List.mem_map.1 hmem
    exact (hpair p hp).2

/-- The two lines of a pair that a category flags are replaced, be it by another pair. -/
lemma replaced_of_changePair (path : Text) (hn : Numbered hunk.start hunk.lines)
    {category : Category} (hc : config.ignores category = true) (hne : category ≠ .lineWrap)
    (hp : pair ∈ changePairs hunk.lines) (ht : pairTest hunk.lines category pair = true) :
    Replaced (hunk.flags (hunk.findings config path)) pair.removed ∧
      Replaced (hunk.flags (hunk.findings config path)) pair.added := by
  by_cases hover : ∃ other ∈ contentPairs (hunk.findings config path), other.added = pair.added
  · -- The block of the pair is reordered, so both lines have partners by content.
    obtain ⟨other, ho, heq⟩ := hover
    obtain ⟨himport, block, hb, htest, hmatch⟩ := mem_contentPairs ho
    obtain ⟨block', hb', -, hr, ha⟩ := mem_changePairs hp
    have hin := (mem_added.1 (mem_of_mem_matchStatements htest hmatch).2).1
    rw [heq] at hin
    obtain rfl := block_eq_of_mem hb hb' hin (mem_added.1 ha).1
    constructor
    · exact replaced_of_reordered hn himport hb htest (mem_removed.1 hr).1
    · exact replaced_of_reordered hn himport hb htest hin
  · have hw := ChangePair.within_of_mem_changePairs hp
    have hr : pair.removed ∈ flaggedEdits (Dialect.ofPath path) hunk.lines category :=
      mem_flaggedEdits.2 (.inl ⟨pair, hp, ht, .inl rfl⟩)
    have ha : pair.added ∈ flaggedEdits (Dialect.ofPath path) hunk.lines category :=
      mem_flaggedEdits.2 (.inl ⟨pair, hp, ht, .inr rfl⟩)
    refine replaced_of_pair hw ?_ ?_ (partner?_of_changePair hn hp ?_)
    · exact (holds_lines_iff hn hw.removed_mem).2 ⟨category, hc, hne, hr⟩
    · exact (holds_lines_iff hn hw.added_mem).2 ⟨category, hc, hne, ha⟩
    · intro other ho heq
      exact hover ⟨other, ho, heq⟩

/-- Whether a line is blank or a comment line and lines of its kind are to be removed. -/
def Negligible (config : Config) (edit : Edit) : Prop :=
  (config.whitespace = true ∧ Text.trim edit.content = []) ∨
    (config.comment = true ∧ Dialect.isCommentLine edit.content = true)

lemma negligible_of_editTest {category : Category} {edit : Edit}
    (hc : config.ignores category = true) (ht : editTest category edit = true) :
    Negligible config edit := by
  cases category with
  | whitespace => exact .inl ⟨hc, by simpa [editTest] using ht⟩
  | comment => exact .inr ⟨hc, ht⟩
  | _ => cases ht

/-- What the detectors flag as a single line is negligible or replaced. -/
lemma negligible_or_replaced (hn : Numbered hunk.start hunk.lines) {edit : Edit}
    (he : edit ∈ edits hunk.lines)
    (hf : Flags.holds (hunk.flags (hunk.findings config path)).lines edit = true) :
    Negligible config edit ∨ Replaced (hunk.flags (hunk.findings config path)) edit := by
  obtain ⟨category, hc, hne, hmem⟩ := (holds_lines_iff hn he).1 hf
  rcases mem_flaggedEdits.1 hmem with ⟨pair, hp, ht, heq⟩ | ⟨-, ht⟩ | ⟨block, hb, ht, hin⟩
  · have hboth := replaced_of_changePair path hn hc hne hp ht
    rcases heq with rfl | rfl
    · exact .inr hboth.1
    · exact .inr hboth.2
  · exact .inl (negligible_of_editTest hc ht)
  · cases category with
    | importOrder => exact .inr (replaced_of_reordered hn hc hb ht hin)
    | lineWrap => exact absurd rfl hne
    | _ => cases ht

end Hunk

/-- In a diff that was read, let an edit outside the blocks that become context as a whole be
flagged by any detector.  If it is added and its partner is missing or not flagged, or if it is
removed and the partner of no flagged added line, then it is blank or a comment line, and lines of
that kind are to be removed. -/
theorem flagged_without_replacement_is_negligible {text : Text} {files : List File}
    (h : readDiff text = .ok files) {file : File} (hf : file ∈ files) {hunk : Hunk}
    (hh : hunk ∈ file.hunks) (config : Config) (path : Text) :
    let found := hunk.findings config path
    let flags := hunk.flags found
    ∀ block ∈ blocks hunk.lines, flags.collapses block = false → ∀ edit ∈ block,
      (edit.side = .new → edit.number ∈ (Finding.flagged found).new →
        (∀ old, flags.partner? edit.number = some old → ¬ old ∈ flags.lines.old) →
        Hunk.Negligible config edit) ∧
      (edit.side = .old → edit.number ∈ (Finding.flagged found).old →
        (∀ new ∈ flags.lines.new, flags.partner? new ≠ some edit.number) →
        Hunk.Negligible config edit) := by
  intro found flags block hb hc edit he
  have hn := (isCounted_of_readDiff h hf hh).numbered
  have hor : Flags.holds (Finding.flagged found) edit = true →
      Hunk.Negligible config edit ∨ Hunk.Replaced flags edit := by
    intro hflagged
    rw [Hunk.holds_flagged_iff_of_not_collapses hn hb hc he] at hflagged
    exact Hunk.negligible_or_replaced hn (mem_edits.2 ⟨block, hb, he⟩) hflagged
  constructor
  · intro hside hflagged hnone
    rcases hor (by simpa [Flags.holds, hside] using hflagged) with hneg | ⟨old, ho, new, -, hp, heq⟩
    · exact hneg
    · rw [hside] at heq
      exact absurd ho (hnone old (heq ▸ hp))
  · intro hside hflagged hnone
    rcases hor (by simpa [Flags.holds, hside] using hflagged) with hneg | ⟨old, -, new, hw, hp, heq⟩
    · exact hneg
    · rw [hside] at heq
      exact absurd (heq ▸ hp) (hnone new hw)

/-- Both comment lines of the second block go without a replacement. -/
theorem negligible_of_sampleText :
    readDiff sampleText = .ok [sampleFile] ∧
      Hunk.Negligible { comment := true } ⟨3, .old, "# old".toList, 3⟩ ∧
      Hunk.Negligible { comment := true } ⟨6, .new, "# new".toList, 4⟩ := by
  have hall := flagged_without_replacement_is_negligible readDiff_sampleText
    (List.mem_singleton_self _) (List.mem_singleton_self _) { comment := true } sampleFile.path
  have hblock := hall
    [⟨3, .old, "# old".toList, 3⟩, ⟨4, .old, ['x'], 4⟩, ⟨5, .new, ['y'], 3⟩,
      ⟨6, .new, "# new".toList, 4⟩] (by decide +kernel) (by decide +kernel)
  refine ⟨readDiff_sampleText, ?_, ?_⟩
  · exact (hblock _ (.head _)).2 rfl (by decide +kernel) (by decide +kernel)
  · refine (hblock _ (.tail _ (.tail _ (.tail _ (.head _))))).1 rfl (by decide +kernel) ?_
    intro old hpartner
    have hold : some old = some 4 := hpartner.symm.trans (by decide +kernel)
    obtain rfl := Option.some.inj hold
    decide +kernel

end DiffSieve
