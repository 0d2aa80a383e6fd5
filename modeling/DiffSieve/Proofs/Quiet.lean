import DiffSieve.Proofs.Blocks
import DiffSieve.Proofs.Stripping

/-!
# Hunks in which nothing is flagged

A block is quiet if no test of a category succeeds on it, and the tests ask only for what is seen of
the block: so a block that is seen as a quiet one is quiet (`Block.Quiet.of_map_view_eq`).

Stripping can make noise where there was none, since the lines that are left of a block are paired
anew.  It cannot if no block is flagged in part: a block of which nothing is flagged stays as it is,
the line after it included, and of a block that is flagged as a whole only context lines are left.
Then every block of the stripped hunk is seen as a block of the hunk in which nothing was flagged
(`mem_withNext_of_leftSegments`), and the stripped hunk is quiet
(`flaggedEdits_eq_nil_of_stripped`).
-/

namespace DiffSieve

open Detection

/-! ## Blocks in which a category flags nothing -/

/-- Whether no test of a category succeeds on a block. -/
structure Block.Quiet (dialect : Dialect) (lines : List Line) (category : Category)
    (block : Block) : Prop where
  pairs : ∀ pair ∈ block.pairs, pairTest lines category pair = false
  edits : ∀ edit ∈ block, editTest category edit = false
  block : blockTest dialect category block = false

section

variable {dialect : Dialect} {lines lines' : List Line} {category : Category} {block block' : Block}

lemma Block.mem_of_blockTest (h : blockTest dialect category block = true) :
    ∃ edit, edit ∈ block := by
  have htwo : block.isTwoSided = true := by
    cases category <;> simp [blockTest, isReordering, isRewrapping] at h <;> tauto
  obtain ⟨edit, he⟩ := List.exists_mem_of_ne_nil block.removed (by
    simp [Block.isTwoSided] at htwo
    exact htwo.1)
  exact ⟨edit, (mem_removed.1 he).1⟩

/-- A block is flagged by the tests on that block alone. -/
lemma Block.mem_flaggedEdits_iff (hb : block ∈ blocks lines) {edit : Edit} (he : edit ∈ block) :
    edit ∈ flaggedEdits dialect lines category ↔
      (∃ pair ∈ block.pairs, pairTest lines category pair = true ∧
        (edit = pair.removed ∨ edit = pair.added)) ∨
      editTest category edit = true ∨ blockTest dialect category block = true := by
  rw [mem_flaggedEdits]
  constructor
  · rintro (⟨pair, hp, htest, heq⟩ | ⟨-, htest⟩ | ⟨other, ho, htest, hin⟩)
    · obtain ⟨other, ho, hpair, hr, ha⟩ := mem_changePairs hp
      have hin : edit ∈ other := by
        rcases heq with rfl | rfl
        · exact (mem_removed.1 hr).1
        · exact (mem_added.1 ha).1
      obtain rfl := block_eq_of_mem hb ho he hin
      exact .inl ⟨pair, hpair, htest, heq⟩
    · exact .inr (.inl htest)
    · obtain rfl := block_eq_of_mem hb ho he hin
      exact .inr (.inr htest)
  · rintro (⟨pair, hp, htest, heq⟩ | htest | htest)
    · exact .inl ⟨pair, List.mem_flatMap.2 ⟨block, hb, hp⟩, htest, heq⟩
    · exact .inr (.inl ⟨mem_edits.2 ⟨block, hb, he⟩, htest⟩)
    · exact .inr (.inr ⟨block, hb, htest, he⟩)

/-- A category that asks about blocks flags all lines of those for which the answer is yes, and none
of the others. -/
lemma Block.holds_flagged_iff {next : Sides Int} (hn : Numbered next lines)
    (hc : category = .importOrder ∨ category = .lineWrap) (hb : block ∈ blocks lines) {edit : Edit}
    (he : edit ∈ block) :
    Flags.holds (ofCategory dialect lines (changePairs lines) category).flagged edit = true ↔
      blockTest dialect category block = true := by
  rw [Detection.holds_flagged_iff hn (mem_edits.2 ⟨block, hb, he⟩), mem_flaggedEdits_iff hb he]
  rcases hc with rfl | rfl <;> simp [pairTest, editTest]

/-- A block is quiet exactly if none of its edits is flagged. -/
lemma Block.quiet_iff (hb : block ∈ blocks lines) :
    block.Quiet dialect lines category ↔
      ∀ edit ∈ block, edit ∉ flaggedEdits dialect lines category := by
  constructor
  · intro hq edit he hflagged
    rcases (mem_flaggedEdits_iff hb he).1 hflagged with ⟨pair, hp, htest, -⟩ | htest | htest
    · rw [hq.pairs pair hp] at htest
      contradiction
    · rw [hq.edits edit he] at htest
      contradiction
    · rw [hq.block] at htest
      contradiction
  · intro hnone
    refine ⟨?_, ?_, ?_⟩
    · intro pair hp
      by_contra htest
      have hin := (mem_removed.1 (mem_of_mem_pairs hp).1).1
      refine hnone pair.removed hin ((mem_flaggedEdits_iff hb hin).2 ?_)
      exact .inl ⟨pair, hp, by simpa using htest, .inl rfl⟩
    · intro edit he
      by_contra htest
      exact hnone edit he ((mem_flaggedEdits_iff hb he).2 (.inr (.inl (by simpa using htest))))
    · by_contra htest
      have htrue : blockTest dialect category block = true := by simpa using htest
      obtain ⟨edit, he⟩ := mem_of_blockTest htrue
      exact hnone edit he ((mem_flaggedEdits_iff hb he).2 (.inr (.inr htrue)))

lemma flaggedEdits_eq_nil_iff :
    flaggedEdits dialect lines category = [] ↔
      ∀ block ∈ blocks lines, block.Quiet dialect lines category := by
  constructor
  · intro hnil block hb
    rw [Block.quiet_iff hb, hnil]
    exact fun _ _ => List.not_mem_nil
  · intro hall
    refine List.eq_nil_iff_forall_not_mem.2 fun edit hflagged => ?_
    obtain ⟨block, hb, he⟩ := mem_edits.1 (mem_edits_of_mem_flaggedEdits hflagged)
    exact (Block.quiet_iff hb).1 (hall block hb) edit he hflagged

/-! ## Blocks that are seen alike -/

lemma map_view_removed (h : block.map (Edit.view lines) = block'.map (Edit.view lines')) :
    block.removed.map (Edit.view lines) = block'.removed.map (Edit.view lines') := by
  have hfilter := congrArg (List.filter fun seen => decide (seen.1 = Side.old)) h
  rw [List.filter_map, List.filter_map] at hfilter
  exact hfilter

lemma map_view_added (h : block.map (Edit.view lines) = block'.map (Edit.view lines')) :
    block.added.map (Edit.view lines) = block'.added.map (Edit.view lines') := by
  have hfilter := congrArg (List.filter fun seen => decide (seen.1 = Side.new)) h
  rw [List.filter_map, List.filter_map] at hfilter
  exact hfilter

lemma map_content_of_map_view (h : block.map (Edit.view lines) = block'.map (Edit.view lines')) :
    block.map Edit.content = block'.map Edit.content := by
  have hcontents := congrArg (List.map fun seen => seen.2.1) h
  rwa [List.map_map, List.map_map] at hcontents

/-- The test of a block asks for the contents of its lines, version by version. -/
lemma blockTest_congr (hall : block.map Edit.content = block'.map Edit.content)
    (hremoved : block.removed.map Edit.content = block'.removed.map Edit.content)
    (hadded : block.added.map Edit.content = block'.added.map Edit.content) :
    blockTest dialect category block = blockTest dialect category block' := by
  have htwo : block.isTwoSided = block'.isTwoSided := by
    have holdEmpty := congrArg List.isEmpty hremoved
    have hnewEmpty := congrArg List.isEmpty hadded
    rw [List.isEmpty_map, List.isEmpty_map] at holdEmpty hnewEmpty
    rw [Block.isTwoSided, Block.isTwoSided, holdEmpty, hnewEmpty]
  cases category with
  | importOrder =>
    have himports := congrArg (List.all · dialect.isImport) hall
    have hold := congrArg (List.map Text.trim) hremoved
    have hnew := congrArg (List.map Text.trim) hadded
    simp only [List.all_map, List.map_map, Function.comp_def] at himports hold hnew
    simp only [blockTest, isReordering, himports, htwo, hold, hnew]
  | lineWrap =>
    have hold : joined block.removed = joined block'.removed :=
      congrArg (List.intercalate ['\n']) hremoved
    have hnew : joined block.added = joined block'.added :=
      congrArg (List.intercalate ['\n']) hadded
    simp only [blockTest, isRewrapping, htwo, hold, hnew]
  | _ => rfl

/-- The test of a pair asks for what is seen of its two lines. -/
lemma pairTest_congr {pair pair' : ChangePair}
    (hr : pair.removed.view lines = pair'.removed.view lines')
    (ha : pair.added.view lines = pair'.added.view lines') :
    pairTest lines category pair = pairTest lines' category pair' := by
  simp only [Edit.view, Prod.mk.injEq] at hr ha
  obtain ⟨-, hremoved, -⟩ := hr
  obtain ⟨-, hadded, hnext⟩ := ha
  cases category <;> simp only [pairTest, onContents, onlySemicolonIn, hremoved, hadded, hnext]

/-- A block that is seen as a quiet one is quiet. -/
lemma Block.Quiet.of_map_view_eq (hq : block.Quiet dialect lines category)
    (h : block.map (Edit.view lines) = block'.map (Edit.view lines')) :
    block'.Quiet dialect lines' category := by
  have hremoved := map_view_removed h
  have hadded := map_view_added h
  refine ⟨?_, ?_, ?_⟩
  · intro pair' hp'
    obtain ⟨i, hr', ha'⟩ := mem_pairs hp'
    have hr := congrArg (·[i]?) hremoved
    have ha := congrArg (·[i]?) hadded
    simp only [List.getElem?_map, hr', ha', Option.map_some, Option.map_eq_some_iff] at hr ha
    obtain ⟨removed, hri, hr⟩ := hr
    obtain ⟨added, hai, ha⟩ := ha
    have hp : ⟨removed, added⟩ ∈ block.pairs := ChangePair.mem_zipWith.2 ⟨i, hri, hai⟩
    rw [← hq.pairs _ hp]
    exact pairTest_congr hr.symm ha.symm
  · intro edit' he'
    have hmem : edit'.content ∈ block.map Edit.content := by
      rw [map_content_of_map_view h]
      exact List.mem_map_of_mem he'
    obtain ⟨edit, he, hcontent⟩ := List.mem_map.1 hmem
    rw [← hq.edits edit he]
    cases category <;> simp only [editTest, hcontent]
  · rw [← hq.block]
    exact (blockTest_congr (map_content_of_map_view h) (map_content_of_map_view hremoved)
      (map_content_of_map_view hadded)).symm

end

/-! ## The segments of a stripped hunk -/

namespace Segment

lemma eq_nil_or_exists_context {segments : List Segment}
    (h : ∀ next ∈ segments.head?, next.block? = none) :
    segments = [] ∨ ∃ content old new rest, segments = context content old new :: rest := by
  cases segments with
  | nil => exact .inl rfl
  | cons segment rest =>
    cases segment with
    | context content old new => exact .inr ⟨content, old, new, rest, rfl⟩
    | block edits => cases h (block edits) rfl

/-- The context lines among some lines, as segments. -/
def contexts : List Line → List Segment
  | [] => []
  | .context content old new :: rest => context content old new :: contexts rest
  | _ :: rest => contexts rest

lemma flatMap_toLines_contexts {lines : List Line} (h : changesOf lines = []) :
    (contexts lines).flatMap toLines = lines := by
  induction lines with
  | nil => rfl
  | cons line rest ih =>
    cases line with
    | context content old new => exact congrArg (_ :: ·) (ih h)
    | removed | added => cases h

lemma Alternating.contexts_append {segments : List Segment} (h : Alternating segments)
    (lines : List Line) : Alternating (contexts lines ++ segments) := by
  induction lines with
  | nil => exact h
  | cons line rest ih =>
    cases line with
    | context content old new => exact .context ih
    | removed | added => exact ih

lemma withNext_contexts_append (lines : List Line) (segments : List Segment) :
    withNext (contexts lines ++ segments) = withNext segments := by
  induction lines with
  | nil => rfl
  | cons line rest ih =>
    cases line with
    | context content old new => exact ih
    | removed | added => exact ih

end Segment

namespace Flags

open Segment

/-- Whether stripping leaves all of a block as it is, or none of its changed lines. -/
def StripsWhole (flags : Flags) (block : Block) : Prop :=
  changesOf (flags.stripBlock block) = [] ∨ flags.stripBlock block = block.map Edit.toLine

/-- What is left of a segment, if blocks are stripped as a whole. -/
def leftSegments (flags : Flags) : Segment → List Segment
  | .context content old new => [.context content old new]
  | .block edits =>
    if changesOf (flags.stripBlock edits) = [] then contexts (flags.stripBlock edits)
    else [.block edits]

variable {flags : Flags}

lemma flatMap_toLines_leftSegments {segments : List Segment}
    (h : ∀ block ∈ segments.filterMap Segment.block?, flags.StripsWhole block) :
    (segments.flatMap flags.leftSegments).flatMap toLines =
      segments.flatMap flags.stripSegment := by
  rw [List.flatMap_assoc]
  apply List.flatMap_congr
  intro segment hs
  cases segment with
  | context content old new => rfl
  | block edits =>
    rw [leftSegments, stripSegment]
    split
    · next hnone => exact flatMap_toLines_contexts hnone
    · next hsome =>
      have hwhole := h edits (List.mem_filterMap.2 ⟨_, hs, rfl⟩)
      rw [hwhole.resolve_left hsome]
      simp [toLines]

lemma alternating_leftSegments {segments : List Segment} (h : Alternating segments) :
    Alternating (segments.flatMap flags.leftSegments) := by
  induction h with
  | nil => exact .nil
  | context h ih => exact .context ih
  | @block edits segments he hs h ih =>
    rw [List.flatMap_cons, leftSegments]
    split
    · exact ih.contexts_append _
    · refine .block he ?_ ih
      rcases eq_nil_or_exists_context hs with rfl | ⟨content, old, new, rest, rfl⟩
      · simp
      · rintro _ ⟨⟩
        rfl

/-- The blocks that are left are blocks that stripping leaves as they are, and the line after each
stays the same. -/
lemma mem_withNext_of_leftSegments {segments : List Segment} (h : Alternating segments)
    {pair : Block × Option Text} (hp : pair ∈ withNext (segments.flatMap flags.leftSegments)) :
    pair ∈ withNext segments ∧ changesOf (flags.stripBlock pair.1) ≠ [] := by
  induction h with
  | nil => cases hp
  | context h ih => exact ih hp
  | @block edits segments he hs h ih =>
    rw [List.flatMap_cons, leftSegments] at hp
    split at hp
    · rw [withNext_contexts_append] at hp
      obtain ⟨hmem, hne⟩ := ih hp
      exact ⟨List.mem_cons_of_mem _ hmem, hne⟩
    · next hsome =>
      rcases List.mem_cons.1 hp with rfl | hp
      · refine ⟨?_, hsome⟩
        rcases eq_nil_or_exists_context hs with rfl | ⟨content, old, new, rest, rfl⟩
        · exact List.mem_cons_self
        · exact List.mem_cons_self
      · obtain ⟨hmem, hne⟩ := ih hp
        exact ⟨List.mem_cons_of_mem _ hmem, hne⟩

end Flags

/-! ## Hunks whose blocks are flagged as a whole -/

namespace Hunk

variable {hunk : Hunk} {config : Config} {path : Text}

/-- Whether no block of a hunk in the file at a path is flagged in part. -/
def FlaggedByBlocks (config : Config) (path : Text) (hunk : Hunk) : Prop :=
  ∀ block ∈ blocks hunk.lines,
    (∀ edit ∈ block, Flags.holds (Finding.flagged (hunk.findings config path)) edit = true) ∨
      ∀ edit ∈ block, Flags.holds (Finding.flagged (hunk.findings config path)) edit = false

instance (config : Config) (path : Text) (hunk : Hunk) :
    Decidable (hunk.FlaggedByBlocks config path) :=
  inferInstanceAs (Decidable (∀ block ∈ blocks hunk.lines, _ ∨ _))

lemma changesOf_stripBlock_eq_nil (hn : Numbered hunk.start hunk.lines) {block : Block}
    (hb : block ∈ blocks hunk.lines)
    (h : ∀ edit ∈ block, Flags.holds (Finding.flagged (hunk.findings config path)) edit = true) :
    changesOf ((hunk.flags (hunk.findings config path)).stripBlock block) = [] := by
  have hnone : ∀ edit ∈ block,
      ¬ (!Flags.holds (Finding.flagged (hunk.findings config path)) edit) = true := by
    intro edit he
    simp [h edit he]
  rw [changesOf_stripBlock hn hb, unflagged_map_toLine, List.filter_eq_nil_iff.2 hnone,
    List.map_nil]

lemma stripBlock_eq_self (hn : Numbered hunk.start hunk.lines) {block : Block}
    (hb : block ∈ blocks hunk.lines)
    (h : ∀ edit ∈ block, Flags.holds (Finding.flagged (hunk.findings config path)) edit = false) :
    (hunk.flags (hunk.findings config path)).stripBlock block = block.map Edit.toLine := by
  have hc : (hunk.flags (hunk.findings config path)).collapses block = false := by
    by_contra hc
    have hc : (hunk.flags (hunk.findings config path)).collapses block = true := by simpa using hc
    obtain ⟨edit, he⟩ := Block.mem_of_blockTest ((collapses_iff hn hb).1 hc).2
    have hflagged := holds_flagged_of_collapses hn hb hc he
    rw [h edit he] at hflagged
    contradiction
  apply Flags.stripBlock_of_not_touches
  rw [Flags.touches, hc, Bool.false_or, List.any_eq_false]
  intro edit he
  rw [← holds_flagged_iff_of_not_collapses hn hb hc he, h edit he]
  exact Bool.false_ne_true

/-- A hunk without partly flagged blocks is quiet once it is stripped, however it is numbered. -/
lemma flaggedEdits_eq_nil_of_stripped (hn : Numbered hunk.start hunk.lines)
    (hw : hunk.FlaggedByBlocks config path) {lines : List Line}
    (hl : lines.map (fun line => (line.mark, line.content)) =
      ((hunk.flags (hunk.findings config path)).stripLines hunk.lines).map
        fun line => (line.mark, line.content))
    {category : Category} (hc : config.ignores category = true) :
    flaggedEdits (Dialect.ofPath path) lines category = [] := by
  have hwhole : ∀ block ∈ blocks hunk.lines,
      (hunk.flags (hunk.findings config path)).StripsWhole block := by
    intro block hb
    rcases hw block hb with hall | hnone
    · exact .inl (changesOf_stripBlock_eq_nil hn hb hall)
    · exact .inr (stripBlock_eq_self hn hb hnone)
  have halternating := Segment.alternating_segmentsFrom 0 hunk.lines
  rw [Flags.stripLines, ← Flags.flatMap_toLines_leftSegments hwhole] at hl
  rw [flaggedEdits_eq_nil_iff]
  intro block' hb'
  obtain ⟨pair, hp, hviews⟩ :=
    exists_views_of_mem_blocks (Flags.alternating_leftSegments halternating) hl hb'
  obtain ⟨hp, hchanges⟩ := Flags.mem_withNext_of_leftSegments halternating hp
  have hb : pair.1 ∈ blocks hunk.lines := by
    rw [blocks, ← Segment.map_fst_withNext]
    exact List.mem_map_of_mem hp
  have hnone := (hw pair.1 hb).resolve_left fun hall =>
    hchanges (changesOf_stripBlock_eq_nil hn hb hall)
  have hquiet : pair.1.Quiet (Dialect.ofPath path) hunk.lines category := by
    rw [Block.quiet_iff hb]
    intro edit he hflagged
    have hholds := (holds_flagged_findings_iff hn (mem_edits.2 ⟨_, hb, he⟩)).2 ⟨_, hc, hflagged⟩
    rw [hnone edit he] at hholds
    contradiction
  exact hquiet.of_map_view_eq
    ((Segment.map_view_of_mem_withNext List.drop_zero pair hp).trans hviews)

/-- Nothing is found in a hunk exactly if no category that is to be removed flags a line of it. -/
lemma findings_eq_nil_iff :
    hunk.findings config path = [] ↔
      ∀ c, config.ignores c = true → flaggedEdits (Dialect.ofPath path) hunk.lines c = [] := by
  have hnonempty : ∀ c, (ofCategory (Dialect.ofPath path) hunk.lines (changePairs hunk.lines)
      c).isNonempty = true ↔ flaggedEdits (Dialect.ofPath path) hunk.lines c ≠ [] := by
    intro c
    constructor
    · intro hne hnil
      rw [isNonempty, flagged_ofCategory, hnil] at hne
      contradiction
    · intro hne
      obtain ⟨edit, he⟩ := List.exists_mem_of_ne_nil _ hne
      have hholds : Flags.holds (ofCategory (Dialect.ofPath path) hunk.lines
          (changePairs hunk.lines) c).flagged edit = true := by
        rw [flagged_ofCategory, Flags.holds_numbers]
        exact ⟨edit, he, rfl, rfl⟩
      exact isNonempty_of_holds hholds
  constructor
  · intro hnil c hc
    by_contra hne
    have hmem : ⟨c, _⟩ ∈ hunk.findings config path := mem_findings.2 ⟨hc, rfl, (hnonempty c).2 hne⟩
    rw [hnil] at hmem
    cases hmem
  · intro hnone
    refine List.eq_nil_iff_forall_not_mem.2 fun finding hf => ?_
    obtain ⟨hc, hdetection, hne⟩ := mem_findings.1 hf
    rw [hdetection, hnonempty] at hne
    exact hne (hnone _ hc)

end Hunk

end DiffSieve
