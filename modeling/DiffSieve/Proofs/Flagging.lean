import DiffSieve.Noise.Sieve
import DiffSieve.Proofs.Edits

/-!
# What the detectors flag

A detector hands over sets of numbers, and the sets of several detectors are united before a hunk
is stripped.  In a numbered hunk nothing is lost by this: an edit's number is in such a set exactly
if some detector meant that edit (`holds_flagged_iff`).  So a question about flags is a question
about `flaggedEdits`, the list of the edits that the detector of a category means, and that list
comes from three tests alone: one of pairs, one of single edits and one of blocks.

For the flags of a hunk this gives `holds_lines_iff` and `holds_blocks_iff`.  A consequence is
`collapses_iff`: the blocks that become context as a whole are the rewrapped ones, since no other
detection can fill the numbers of such a block.
-/

namespace DiffSieve

/-! ## Sets of numbers as sets of edits -/

namespace Flags

variable {edit : Edit}

lemma holds_iff {flagged : Sides NumberSet} :
    holds flagged edit = true ↔ edit.number ∈ flagged.at edit.side := by
  unfold holds
  cases edit.side <;> simp [Sides.at]

lemma mem_numbers {edits : List Edit} {side : Side} {n : Int} :
    n ∈ (Detection.numbers edits).at side ↔ ∃ e ∈ edits, e.side = side ∧ e.number = n := by
  cases side <;> simp [Detection.numbers, Sides.at, mem_removed, mem_added, and_assoc]

lemma holds_numbers {edits : List Edit} :
    holds (Detection.numbers edits) edit = true ↔
      ∃ e ∈ edits, e.side = edit.side ∧ e.number = edit.number := by
  rw [holds_iff, mem_numbers]

lemma mem_unite {detections : List Detection} {side : Side} {n : Int} :
    n ∈ (unite detections).at side ↔ ∃ d ∈ detections, n ∈ d.flagged.at side := by
  induction detections with
  | nil => cases side <;> simp [unite, Sides.at]
  | cons detection rest ih =>
    have hstep : (unite (detection :: rest)).at side =
        (detection.flagged.at side).union ((unite rest).at side) := by
      cases side <;> rfl
    rw [hstep, NumberSet.mem_union, ih]
    simp

lemma holds_unite {detections : List Detection} :
    holds (unite detections) edit = true ↔ ∃ d ∈ detections, holds d.flagged edit = true := by
  simp only [holds_iff, mem_unite]

lemma holds_unite_map {α : Type} {items : List α} {detection : α → Detection} :
    holds (unite (items.map detection)) edit = true ↔
      ∃ item ∈ items, holds (detection item).flagged edit = true := by
  rw [holds_unite]
  constructor
  · rintro ⟨d, hd, h⟩
    obtain ⟨item, hitem, rfl⟩ := List.mem_map.1 hd
    exact ⟨item, hitem, h⟩
  · rintro ⟨item, hitem, h⟩
    exact ⟨detection item, List.mem_map_of_mem hitem, h⟩

end Flags

/-! ## The three tests -/

namespace Detection

/-- What a category asks about the two lines of a pair. -/
def pairTest (lines : List Line) : Category → ChangePair → Bool
  | .whitespace => onContents Likeness.onlySpace
  | .comment => onContents Likeness.onlyComments
  | .quote => onContents Likeness.onlyQuotes
  | .trailingComma => onContents Likeness.onlyTrailingComma
  | .semicolon => onlySemicolonIn lines
  | .importOrder | .lineWrap => fun _ => false

/-- What a category asks about a single changed line. -/
def editTest : Category → Edit → Bool
  | .whitespace => fun edit => (Text.trim edit.content).isEmpty
  | .comment => fun edit => Dialect.isCommentLine edit.content
  | _ => fun _ => false

/-- What a category asks about a block. -/
def blockTest (dialect : Dialect) : Category → Block → Bool
  | .importOrder => fun block => dialect.importsMayMove && isReordering dialect block
  | .lineWrap => fun block => dialect.linesMayWrap && isRewrapping block
  | _ => fun _ => false

/-- The edits that the detector of a category means. -/
def flaggedEdits (dialect : Dialect) (lines : List Line) (category : Category) : List Edit :=
  bothLines ((changePairs lines).filter (pairTest lines category)) ++
    (edits lines).filter (editTest category) ++
    ((blocks lines).filter (blockTest dialect category)).flatten

variable {dialect : Dialect} {lines : List Line} {category : Category} {edit : Edit}

lemma flagged_ofCategory (dialect : Dialect) (lines : List Line) (category : Category) :
    (ofCategory dialect lines (changePairs lines) category).flagged =
      numbers (flaggedEdits dialect lines category) := by
  have hnone : ∀ {α : Type} (l : List α), l.filter (fun _ => false) = [] := by simp
  cases category with
  | importOrder =>
    cases h : dialect.importsMayMove <;>
      simp [ofCategory, ofImports, ofEdits, flaggedEdits, pairTest, editTest, blockTest, bothLines,
        h, hnone]
  | lineWrap =>
    cases h : dialect.linesMayWrap <;>
      simp [ofCategory, ofWrapping, ofEdits, flaggedEdits, pairTest, editTest, blockTest, bothLines,
        h, hnone]
  | _ => simp [ofCategory, ofLikeness, ofEdits, flaggedEdits, pairTest, editTest, blockTest, hnone]

lemma mem_flaggedEdits :
    edit ∈ flaggedEdits dialect lines category ↔
      (∃ pair ∈ changePairs lines, pairTest lines category pair = true ∧
        (edit = pair.removed ∨ edit = pair.added)) ∨
      (edit ∈ edits lines ∧ editTest category edit = true) ∨
      ∃ block ∈ blocks lines, blockTest dialect category block = true ∧ edit ∈ block := by
  simp [flaggedEdits, bothLines, and_assoc]

lemma mem_edits_of_mem_flaggedEdits (h : edit ∈ flaggedEdits dialect lines category) :
    edit ∈ edits lines := by
  rcases mem_flaggedEdits.1 h with ⟨pair, hp, -, heq⟩ | ⟨he, -⟩ | ⟨block, hb, -, he⟩
  · obtain ⟨block, hb, -, hr, ha⟩ := mem_changePairs hp
    rcases heq with rfl | rfl
    · exact mem_edits.2 ⟨block, hb, (mem_removed.1 hr).1⟩
    · exact mem_edits.2 ⟨block, hb, (mem_added.1 ha).1⟩
  · exact he
  · exact mem_edits.2 ⟨block, hb, he⟩

/-- In a numbered hunk the numbers of a detection flag the edits it means and no other one. -/
lemma holds_flagged_iff {next : Sides Int} (hn : Numbered next lines) (he : edit ∈ edits lines) :
    Flags.holds (ofCategory dialect lines (changePairs lines) category).flagged edit = true ↔
      edit ∈ flaggedEdits dialect lines category := by
  rw [flagged_ofCategory, Flags.holds_numbers]
  constructor
  · rintro ⟨e, hmem, hside, hnumber⟩
    have heq := edit_eq_of_number hn (mem_edits_of_mem_flaggedEdits hmem) he hside hnumber
    exact heq ▸ hmem
  · intro hmem
    exact ⟨edit, hmem, rfl, rfl⟩

lemma isNonempty_of_holds {detection : Detection}
    (h : Flags.holds detection.flagged edit = true) : detection.isNonempty = true := by
  unfold Flags.holds at h
  cases hside : edit.side <;> simp only [hside, decide_eq_true_eq] at h <;>
    have hne := List.ne_nil_of_mem (NumberSet.mem_toList.2 h) <;>
    simp [isNonempty, NumberSet.isEmpty, hne]

end Detection

/-! ## The flags of a hunk -/

/-- The numbers that any of some findings flags. -/
def Finding.flagged (found : List Finding) : Sides NumberSet :=
  Flags.unite (found.map Finding.detection)

namespace Hunk

open Detection

variable {hunk : Hunk} {config : Config} {path : Text} {edit : Edit}

lemma mem_findings {finding : Finding} :
    finding ∈ hunk.findings config path ↔
      config.ignores finding.category = true ∧
        finding.detection = ofCategory (Dialect.ofPath path) hunk.lines (changePairs hunk.lines)
          finding.category ∧
        finding.detection.isNonempty = true := by
  unfold findings DiffSieve.findings
  rw [List.mem_filter, List.mem_map]
  constructor
  · rintro ⟨⟨category, hc, rfl⟩, hne⟩
    exact ⟨Config.mem_categories.1 hc, rfl, hne⟩
  · rintro ⟨hc, hd, hne⟩
    refine ⟨⟨finding.category, Config.mem_categories.2 hc, ?_⟩, hne⟩
    rw [← hd]

/-- A category that satisfies `P` and is to be removed flags an edit exactly if a finding of such a
category does. -/
lemma exists_finding_iff (config : Config) (path : Text) (hn : Numbered hunk.start hunk.lines)
    (he : edit ∈ edits hunk.lines) (P : Category → Prop) :
    (∃ f ∈ hunk.findings config path, P f.category ∧ Flags.holds f.detection.flagged edit = true) ↔
      ∃ c, config.ignores c = true ∧ P c ∧
        edit ∈ flaggedEdits (Dialect.ofPath path) hunk.lines c := by
  constructor
  · rintro ⟨f, hf, hP, hholds⟩
    obtain ⟨hc, hd, -⟩ := mem_findings.1 hf
    rw [hd] at hholds
    exact ⟨f.category, hc, hP, (holds_flagged_iff hn he).1 hholds⟩
  · rintro ⟨c, hc, hP, hmem⟩
    have hholds := (holds_flagged_iff hn he).2 hmem
    exact ⟨⟨c, _⟩, mem_findings.2 ⟨hc, rfl, isNonempty_of_holds hholds⟩, hP, hholds⟩

lemma holds_flagged_findings_iff (hn : Numbered hunk.start hunk.lines)
    (he : edit ∈ edits hunk.lines) :
    Flags.holds (Finding.flagged (hunk.findings config path)) edit = true ↔
      ∃ c, config.ignores c = true ∧ edit ∈ flaggedEdits (Dialect.ofPath path) hunk.lines c := by
  have hiff := exists_finding_iff config path hn he fun _ => True
  rw [Finding.flagged, Flags.holds_unite_map]
  simpa using hiff

/-- The flags of one scope are those of the findings of that scope. -/
lemma holds_unite_scope (found : List Finding) (scope : Scope) (edit : Edit) :
    Flags.holds (Flags.unite
      (((found.map fun f => (f.category.scope, f.detection)).filter (·.1 = scope)).map (·.2)))
      edit = true ↔
      ∃ f ∈ found, f.category.scope = scope ∧ Flags.holds f.detection.flagged edit = true := by
  rw [List.filter_map, List.map_map, Flags.holds_unite_map]
  simp [and_assoc]

lemma scope_eq_lines_iff {category : Category} :
    category.scope = .lines ↔ category ≠ .lineWrap := by
  cases category <;> simp [Category.scope]

lemma scope_eq_blocks_iff {category : Category} :
    category.scope = .blocks ↔ category = .lineWrap := by
  cases category <;> simp [Category.scope]

lemma holds_lines_iff (hn : Numbered hunk.start hunk.lines) (he : edit ∈ edits hunk.lines) :
    Flags.holds (hunk.flags (hunk.findings config path)).lines edit = true ↔
      ∃ c, config.ignores c = true ∧ c ≠ .lineWrap ∧
        edit ∈ flaggedEdits (Dialect.ofPath path) hunk.lines c := by
  have hscope := holds_unite_scope (hunk.findings config path) .lines edit
  have hiff := exists_finding_iff config path hn he (·.scope = .lines)
  simp only [scope_eq_lines_iff] at hscope hiff
  exact hscope.trans hiff

lemma holds_blocks_iff (hn : Numbered hunk.start hunk.lines) (he : edit ∈ edits hunk.lines) :
    Flags.holds (hunk.flags (hunk.findings config path)).blocks edit = true ↔
      config.ignores .lineWrap = true ∧
        edit ∈ flaggedEdits (Dialect.ofPath path) hunk.lines .lineWrap := by
  have hscope := holds_unite_scope (hunk.findings config path) .blocks edit
  have hiff := exists_finding_iff config path hn he (·.scope = .blocks)
  simp only [scope_eq_blocks_iff] at hscope hiff
  refine hscope.trans (hiff.trans ⟨?_, ?_⟩)
  · rintro ⟨c, hc, rfl, hmem⟩
    exact ⟨hc, hmem⟩
  · rintro ⟨hc, hmem⟩
    exact ⟨_, hc, rfl, hmem⟩

/-- An edit that the detector of wrapped lines means stands in a rewrapped block. -/
lemma mem_flaggedEdits_lineWrap {dialect : Dialect} {lines : List Line} :
    edit ∈ flaggedEdits dialect lines .lineWrap ↔
      ∃ block ∈ blocks lines, blockTest dialect .lineWrap block = true ∧ edit ∈ block := by
  simp [mem_flaggedEdits, pairTest, editTest]

/-- A block becomes context as a whole exactly if it only wraps its text in another way and such
blocks are to be removed. -/
lemma collapses_iff (hn : Numbered hunk.start hunk.lines) {block : Block}
    (hb : block ∈ blocks hunk.lines) :
    (hunk.flags (hunk.findings config path)).collapses block = true ↔
      config.ignores .lineWrap = true ∧ blockTest (Dialect.ofPath path) .lineWrap block = true := by
  rw [Flags.collapses, Bool.and_eq_true, List.all_eq_true]
  constructor
  · rintro ⟨hall, htwo⟩
    have hne : Block.removed block ≠ [] := by
      intro he
      simp [Block.isTwoSided, he] at htwo
    obtain ⟨edit, hr⟩ := List.exists_mem_of_ne_nil _ hne
    have hedit := (mem_removed.1 hr).1
    have hmem := mem_edits.2 ⟨block, hb, hedit⟩
    obtain ⟨hc, hflagged⟩ := (holds_blocks_iff hn hmem).1 (hall edit hedit)
    obtain ⟨other, ho, htest, hin⟩ := mem_flaggedEdits_lineWrap.1 hflagged
    rw [block_eq_of_mem hb ho hedit hin]
    exact ⟨hc, htest⟩
  · rintro ⟨hc, htest⟩
    constructor
    · intro edit hedit
      refine (holds_blocks_iff hn (mem_edits.2 ⟨block, hb, hedit⟩)).2 ⟨hc, ?_⟩
      exact mem_flaggedEdits_lineWrap.2 ⟨block, hb, htest, hedit⟩
    · simp only [blockTest, isRewrapping, Bool.and_eq_true] at htest
      exact htest.2.1

/-- A flagged edit outside the blocks that become context as a whole is flagged as a single
line. -/
lemma holds_flagged_iff_of_not_collapses (hn : Numbered hunk.start hunk.lines) {block : Block}
    (hb : block ∈ blocks hunk.lines)
    (hc : (hunk.flags (hunk.findings config path)).collapses block = false) {edit : Edit}
    (he : edit ∈ block) :
    Flags.holds (Finding.flagged (hunk.findings config path)) edit =
      Flags.holds (hunk.flags (hunk.findings config path)).lines edit := by
  have hmem := mem_edits.2 ⟨block, hb, he⟩
  rw [Bool.eq_iff_iff, holds_flagged_findings_iff hn hmem, holds_lines_iff hn hmem]
  constructor
  · rintro ⟨c, hignored, hflagged⟩
    refine ⟨c, hignored, ?_, hflagged⟩
    -- Were the line flagged as wrapped, then so were its block.
    rintro rfl
    obtain ⟨other, ho, htest, hin⟩ := mem_flaggedEdits_lineWrap.1 hflagged
    rw [← block_eq_of_mem hb ho he hin] at htest
    rw [(collapses_iff hn hb).2 ⟨hignored, htest⟩] at hc
    contradiction
  · rintro ⟨c, hignored, -, hflagged⟩
    exact ⟨c, hignored, hflagged⟩

/-- In a block that becomes context as a whole every line is flagged. -/
lemma holds_flagged_of_collapses (hn : Numbered hunk.start hunk.lines) {block : Block}
    (hb : block ∈ blocks hunk.lines)
    (hc : (hunk.flags (hunk.findings config path)).collapses block = true) {edit : Edit}
    (he : edit ∈ block) :
    Flags.holds (Finding.flagged (hunk.findings config path)) edit = true := by
  obtain ⟨hignored, htest⟩ := (collapses_iff hn hb).1 hc
  refine (holds_flagged_findings_iff hn (mem_edits.2 ⟨block, hb, he⟩)).2 ⟨.lineWrap, hignored, ?_⟩
  exact mem_flaggedEdits_lineWrap.2 ⟨block, hb, htest, he⟩

end Hunk
end DiffSieve
