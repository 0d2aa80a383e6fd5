import DiffSieve.Proofs.Quiet
import DiffSieve.Proofs.Replacement

/-!
# Imports in another order

Whether a block only puts its imports in another order is told by the statements that its lines
make: both versions make some, all of them are imports, and they are the same ones, each as often as
the other version makes it (`Block.Reorders`).  The lines of such a block are matched one to one,
the first that makes a statement with the first, the second with the second and so on
(`exists_partner_of_perm`).

These pairs by content come after the pairs by rank, and so each added line of the block has the
partner that makes its statement, whatever else is flagged in the block.  All lines of the block are
flagged.  Thus nothing is left of a removed line, an added line becomes context with the number of
its partner, and the lines that stand in the place of the block go along its added lines
(`Hunk.forall₂_stripBlock_of_reordered`).
-/

namespace DiffSieve

open Detection

/-! ## Blocks of reordered imports -/

/-- Whether a block holds imports only, and the same statements in both versions. -/
structure Block.Reorders (dialect : Dialect) (block : Block) : Prop where
  removed_ne : block.removed ≠ []
  added_ne : block.added ≠ []
  isImport : ∀ edit ∈ block, dialect.isImport edit.content = true
  perm : (block.removed.map Edit.statement).Perm (block.added.map Edit.statement)

lemma Block.blockTest_iff_reorders {dialect : Dialect} (h : dialect.importsMayMove = true)
    {block : Block} :
    blockTest dialect .importOrder block = true ↔ block.Reorders dialect := by
  have htest : blockTest dialect .importOrder block = isReordering dialect block := by
    simp only [blockTest, h, Bool.true_and]
  have himport : block.all (dialect.isImport ·.content) = true ↔
      ∀ edit ∈ block, dialect.isImport edit.content = true := List.all_eq_true
  have hperm : (block.removed.map (Text.trim ·.content)).isPerm
      (block.added.map (Text.trim ·.content)) = true ↔
        (block.removed.map Edit.statement).Perm (block.added.map Edit.statement) :=
    List.isPerm_iff
  rw [htest, isReordering, Bool.and_eq_true, Bool.and_eq_true, himport, isTwoSided_iff, hperm]
  constructor
  · rintro ⟨⟨himports, hremoved, hadded⟩, hsame⟩
    exact ⟨hremoved, hadded, himports, hsame⟩
  · rintro ⟨hremoved, hadded, himports, hsame⟩
    exact ⟨⟨himports, hremoved, hadded⟩, hsame⟩

section

variable {lines : List Line} {block : Block}

/-- Matching by content gives each line of either version one partner. -/
lemma exists_partner_of_perm (hb : block ∈ blocks lines)
    (h : (block.removed.map Edit.statement).Perm (block.added.map Edit.statement)) :
    (∀ old ∈ block.removed, ∃ new ∈ block.added, ∀ other,
      ⟨old, other⟩ ∈ matchStatements block.removed block.added ↔ other = new) ∧
    ∀ new ∈ block.added, ∃ old ∈ block.removed, ∀ other,
      ⟨other, new⟩ ∈ matchStatements block.removed block.added ↔ other = old := by
  obtain ⟨hremoved, hadded⟩ := matchStatements_perm h
  have hnodup := nodup_block hb
  have hold : ((matchStatements block.removed block.added).map ChangePair.removed).Nodup := by
    rw [hremoved]
    exact hnodup.filter _
  have hnew : ((matchStatements block.removed block.added).map ChangePair.added).Nodup :=
    hadded.symm.nodup (hnodup.filter _)
  constructor
  · intro old ho
    rw [← hremoved] at ho
    obtain ⟨pair, hp, rfl⟩ := List.mem_map.1 ho
    refine ⟨pair.added, hadded.subset (List.mem_map_of_mem hp), fun other => ⟨?_, ?_⟩⟩
    · intro hother
      exact congrArg ChangePair.added (List.inj_on_of_nodup_map hold hother hp rfl)
    · rintro rfl
      exact hp
  · intro new hn
    obtain ⟨pair, hp, rfl⟩ := List.mem_map.1 (hadded.symm.subset hn)
    have hmem : pair.removed ∈ block.removed := by
      rw [← hremoved]
      exact List.mem_map_of_mem hp
    refine ⟨pair.removed, hmem, fun other => ⟨?_, ?_⟩⟩
    · intro hother
      exact congrArg ChangePair.removed (List.inj_on_of_nodup_map hnew hother hp rfl)
    · rintro rfl
      exact hp

/-- The pairs by content of a hunk that have a line of a reordered block are those of the block. -/
lemma mem_pairs_iff_of_reordered {dialect : Dialect} (hb : block ∈ blocks lines)
    (ht : blockTest dialect .importOrder block = true) {pair : ChangePair}
    (h : pair.removed ∈ block ∨ pair.added ∈ block) :
    pair ∈ (ofImports dialect lines).pairs ↔ pair ∈ matchStatements block.removed block.added := by
  rw [mem_pairs_ofImports]
  constructor
  · rintro ⟨other, ho, htest, hp⟩
    obtain ⟨hr, ha⟩ := mem_of_mem_matchStatements htest hp
    rcases h with hin | hin
    · rwa [block_eq_of_mem hb ho hin (mem_removed.1 hr).1]
    · rwa [block_eq_of_mem hb ho hin (mem_added.1 ha).1]
  · intro hp
    exact ⟨block, hb, ht, hp⟩

end

/-! ## Reordered imports become context -/

/-- If removed lines leave nothing and each added line leaves one line, then the lines that are left
go along the added lines. -/
lemma forall₂_added_flatMap {edits : List Edit} {f : Edit → List Line} {R : Edit → Line → Prop}
    (hold : ∀ edit ∈ edits, edit.side = .old → f edit = [])
    (hnew : ∀ edit ∈ edits, edit.side = .new → ∃ line, f edit = [line] ∧ R edit line) :
    List.Forall₂ R (Block.added edits) (edits.flatMap f) := by
  induction edits with
  | nil => exact .nil
  | cons edit rest ih =>
    have hrest := ih (fun other ho => hold other (List.mem_cons_of_mem _ ho))
      fun other ho => hnew other (List.mem_cons_of_mem _ ho)
    rw [List.flatMap_cons]
    cases hside : edit.side with
    | old =>
      have hskip : Block.added (edit :: rest) = Block.added rest :=
        List.filter_cons_of_neg (by simp [hside])
      rw [hold edit List.mem_cons_self hside, hskip]
      exact hrest
    | new =>
      have hkeep : Block.added (edit :: rest) = edit :: Block.added rest :=
        List.filter_cons_of_pos (by simp [hside])
      obtain ⟨line, hline, hR⟩ := hnew edit List.mem_cons_self hside
      rw [hline, hkeep]
      exact .cons hR hrest

namespace Hunk

variable {hunk : Hunk} {config : Config} {path : Text} {block : Block}

/-- In a reordered block an added line becomes context with the number of its partner. -/
lemma stripEdit_of_matched (hn : Numbered hunk.start hunk.lines)
    (hc : config.ignores .importOrder = true) (hb : block ∈ blocks hunk.lines)
    (ht : blockTest (Dialect.ofPath path) .importOrder block = true) {pair : ChangePair}
    (hp : pair ∈ matchStatements block.removed block.added) :
    (hunk.flags (hunk.findings config path)).stripEdit pair.added =
      [.context pair.added.content pair.removed.number pair.added.number] := by
  obtain ⟨hr, ha⟩ := mem_of_mem_matchStatements ht hp
  obtain ⟨hremoved, hrside⟩ := mem_removed.1 hr
  obtain ⟨hadded, haside⟩ := mem_added.1 ha
  have hpartner := partner?_of_contentPair hn (mem_contentPairs_of_mem hn hc hb ht hp)
  have hheld := holds_lines_of_reordered hn hc hb ht hremoved
  rw [Flags.holds_iff, hrside] at hheld
  rw [Flags.stripEdit, if_pos (holds_lines_of_reordered hn hc hb ht hadded), haside]
  simp only [hpartner]
  exact if_pos hheld

/-- A reordered block that does not become context as a whole becomes context line by line. -/
lemma forall₂_stripBlock_of_reordered (hn : Numbered hunk.start hunk.lines)
    (hc : config.ignores .importOrder = true) (hb : block ∈ blocks hunk.lines)
    (ht : blockTest (Dialect.ofPath path) .importOrder block = true)
    (hcollapses : (hunk.flags (hunk.findings config path)).collapses block = false) :
    List.Forall₂ (fun edit line => ∃ old, ⟨old, edit⟩ ∈ matchStatements block.removed block.added ∧
        line = .context edit.content old.number edit.number)
      block.added ((hunk.flags (hunk.findings config path)).stripBlock block) := by
  rw [Flags.stripBlock, hcollapses, if_neg Bool.false_ne_true]
  apply forall₂_added_flatMap
  · intro edit he hside
    rw [Flags.stripEdit, if_pos (holds_lines_of_reordered hn hc hb ht he), hside]
  · intro edit he hside
    obtain ⟨old, -, hpartner⟩ :=
      (exists_partner_of_perm hb (perm_of_blockTest ht)).2 edit (mem_added.2 ⟨he, hside⟩)
    have hp := (hpartner old).2 rfl
    exact ⟨_, stripEdit_of_matched hn hc hb ht hp, old, hp, rfl⟩

/-- A block does not become context as a whole if a line of it is free of the detector of wrapped
lines. -/
lemma collapses_eq_false_of_free (hn : Numbered hunk.start hunk.lines)
    (hb : block ∈ blocks hunk.lines)
    (hwrap : config.ignores .lineWrap = true → ∃ edit ∈ block,
      Flags.holds (ofCategory (Dialect.ofPath path) hunk.lines (changePairs hunk.lines)
        .lineWrap).flagged edit = false) :
    (hunk.flags (hunk.findings config path)).collapses block = false := by
  rw [← Bool.not_eq_true, Hunk.collapses_iff hn hb]
  rintro ⟨hignored, hrewrapped⟩
  obtain ⟨edit, he, hfree⟩ := hwrap hignored
  rw [(Block.holds_flagged_iff hn (.inr rfl) hb he).2 hrewrapped] at hfree
  contradiction

section

variable (hmove : (Dialect.ofPath path).importsMayMove = true)
include hmove

/-- The detector of reordered imports flags all lines of a block or none. -/
lemma holds_flagged_iff_reorders (hn : Numbered hunk.start hunk.lines)
    (hb : block ∈ blocks hunk.lines) {edit : Edit} (he : edit ∈ block) :
    Flags.holds (ofImports (Dialect.ofPath path) hunk.lines).flagged edit = true ↔
      block.Reorders (Dialect.ofPath path) :=
  (Block.holds_flagged_iff hn (.inl rfl) hb he).trans (Block.blockTest_iff_reorders hmove)

/-- The pairs of the detector have the same rank among the lines that make one statement. -/
lemma mem_pairs_iff_same_rank {pair : ChangePair} :
    pair ∈ (ofImports (Dialect.ofPath path) hunk.lines).pairs ↔
      ∃ block ∈ blocks hunk.lines, block.Reorders (Dialect.ofPath path) ∧
        ∃ (statement : Text) (k : Nat), (making statement block.removed)[k]? = some pair.removed ∧
          (making statement block.added)[k]? = some pair.added := by
  refine mem_pairs_ofImports.trans (exists_congr fun block => and_congr_right fun _ => ?_)
  rw [Block.blockTest_iff_reorders hmove, mem_matchStatements_iff]

/-- The pairs of the detector give each line of a reordered block one partner. -/
lemma exists_partner_of_reorders (hb : block ∈ blocks hunk.lines)
    (hr : block.Reorders (Dialect.ofPath path)) :
    let pairs := (ofImports (Dialect.ofPath path) hunk.lines).pairs
    (∀ old ∈ block.removed, ∃ new ∈ block.added, ∀ other, ⟨old, other⟩ ∈ pairs ↔ other = new) ∧
      ∀ new ∈ block.added, ∃ old ∈ block.removed, ∀ other, ⟨other, new⟩ ∈ pairs ↔ other = old := by
  intro pairs
  have ht := (Block.blockTest_iff_reorders hmove).2 hr
  obtain ⟨hold, hnew⟩ := exists_partner_of_perm hb hr.perm
  constructor
  · intro old ho
    obtain ⟨new, ha, hiff⟩ := hold old ho
    exact ⟨new, ha, fun other =>
      (mem_pairs_iff_of_reordered hb ht (.inl (mem_removed.1 ho).1)).trans (hiff other)⟩
  · intro new ha
    obtain ⟨old, ho, hiff⟩ := hnew new ha
    exact ⟨old, ho, fun other =>
      (mem_pairs_iff_of_reordered hb ht (.inr (mem_added.1 ha).1)).trans (hiff other)⟩

/-- In the place of a reordered block stand its added lines as context, each with the number of its
partner. -/
lemma forall₂_context_of_reorders (hn : Numbered hunk.start hunk.lines)
    (hc : config.ignores .importOrder = true) (hb : block ∈ blocks hunk.lines)
    (hr : block.Reorders (Dialect.ofPath path))
    (hcollapses : (hunk.flags (hunk.findings config path)).collapses block = false) :
    List.Forall₂ (fun edit line => ∃ old ∈ block.removed,
        ⟨old, edit⟩ ∈ (ofImports (Dialect.ofPath path) hunk.lines).pairs ∧
        old.statement = edit.statement ∧
        line = .context edit.content old.number edit.number)
      block.added ((hunk.flags (hunk.findings config path)).stripBlock block) := by
  have ht := (Block.blockTest_iff_reorders hmove).2 hr
  apply (forall₂_stripBlock_of_reordered hn hc hb ht hcollapses).imp
  rintro edit line ⟨old, hp, rfl⟩
  have hremoved := (mem_of_mem_matchStatements ht hp).1
  exact ⟨old, hremoved,
    (mem_pairs_iff_of_reordered hb ht (.inl (mem_removed.1 hremoved).1)).2 hp,
    statement_eq_of_mem_matchStatements hp, rfl⟩

end

end Hunk

/-- In a diff that was read, let the order of imports be free in the files at a path.  Then the
detector of reordered imports flags all lines of a block or none, and all exactly if the block holds
imports only and the same statements in both versions.  Its pairs are those of a removed and an
added line of such a block that have the same rank among the lines of their version that make one
statement, and they give each line of the block one partner.  If such blocks are to be removed and
the hunk is kept, then what takes the place of such a block, the rewrapped ones aside, is its added
lines as context, each with the number of its partner, which is a removed line of the block that
makes the same statement. -/
theorem reordered_imports_become_context {text : Text} {files : List File}
    (h : readDiff text = .ok files) {file : File} (hf : file ∈ files) {hunk : Hunk}
    (hh : hunk ∈ file.hunks) {path : Text}
    (hmove : (Dialect.ofPath path).importsMayMove = true) :
    let detected := ofCategory (Dialect.ofPath path) hunk.lines (changePairs hunk.lines)
    let pairs := (detected .importOrder).pairs
    let Reorders := Block.Reorders (Dialect.ofPath path)
    (∀ block ∈ blocks hunk.lines,
      (Reorders block →
        ∀ edit ∈ block, Flags.holds (detected .importOrder).flagged edit = true) ∧
      (¬ Reorders block →
        ∀ edit ∈ block, Flags.holds (detected .importOrder).flagged edit = false)) ∧
    (∀ pair, pair ∈ pairs ↔ ∃ block ∈ blocks hunk.lines, Reorders block ∧
      ∃ (statement : Text) (k : Nat), (making statement block.removed)[k]? = some pair.removed ∧
        (making statement block.added)[k]? = some pair.added) ∧
    (∀ block ∈ blocks hunk.lines, Reorders block →
      (∀ old ∈ block.removed, ∃ new ∈ block.added, ∀ other, ⟨old, other⟩ ∈ pairs ↔ other = new) ∧
      ∀ new ∈ block.added, ∃ old ∈ block.removed, ∀ other, ⟨other, new⟩ ∈ pairs ↔ other = old) ∧
    ∀ config : Config, config.ignores .importOrder = true →
      ∀ left, (hunk.sieve (hunk.findings config path)).hunk = some left →
      ∀ block ∈ blocks hunk.lines, Reorders block →
      (config.ignores .lineWrap = true →
        ∃ edit ∈ block, Flags.holds (detected .lineWrap).flagged edit = false) →
      ∃ shown,
        (hunk.flags (hunk.findings config path)).StandsFor hunk.lines left.lines block shown ∧
        List.Forall₂ (fun edit line => ∃ old ∈ block.removed, ⟨old, edit⟩ ∈ pairs ∧
            old.statement = edit.statement ∧
            line = .context edit.content old.number edit.number)
          block.added shown := by
  intro detected pairs Reorders
  have hn := (isCounted_of_readDiff h hf hh).numbered
  refine ⟨fun block hb => ⟨fun hr edit he => ?_, fun hr edit he => ?_⟩,
    fun pair => Hunk.mem_pairs_iff_same_rank hmove,
    fun block hb hr => Hunk.exists_partner_of_reorders hmove hb hr, ?_⟩
  · exact (Hunk.holds_flagged_iff_reorders hmove hn hb he).2 hr
  · rw [← Bool.not_eq_true]
    exact fun hholds => hr ((Hunk.holds_flagged_iff_reorders hmove hn hb he).1 hholds)
  · intro config hc left hleft block hb hr hwrap
    have hcollapses := Hunk.collapses_eq_false_of_free hn hb hwrap
    exact ⟨_, Hunk.standsFor_of_sieve hleft hb,
      Hunk.forall₂_context_of_reorders hmove hn hc hb hr hcollapses⟩

/-- A diff in which two imports of one module and one of another change places. -/
def importText : Text :=
  ["diff --git a/x.ts b/x.ts", "@@ -7,5 +7,5 @@", "-import b", "+import a", "-import a",
    "-import a", "+import b", "+import a", " z", "-x", "+y"].flatMap
      fun line => line.toList ++ ['\n']

def importHunk : Hunk where
  header := "@@ -7,5 +7,5 @@".toList
  heading := []
  start := ⟨7, 7⟩
  count := ⟨5, 5⟩
  declared := ⟨5, 5⟩
  lines :=
    [.removed "import b".toList 7, .added "import a".toList 7, .removed "import a".toList 8,
      .removed "import a".toList 9, .added "import b".toList 8, .added "import a".toList 9,
      .context ['z'] 10 10, .removed ['x'] 11, .added ['y'] 11]

def importFile : File where
  path := "x.ts".toList
  source := some "x.ts".toList
  target := some "x.ts".toList
  kind := .modify
  metadata := {}
  hunks := [importHunk]

def importBlock : Block :=
  [⟨0, .old, "import b".toList, 7⟩, ⟨1, .new, "import a".toList, 7⟩,
    ⟨2, .old, "import a".toList, 8⟩, ⟨3, .old, "import a".toList, 9⟩,
    ⟨4, .new, "import b".toList, 8⟩, ⟨5, .new, "import a".toList, 9⟩]

lemma readDiff_importText : readDiff importText = .ok [importFile] := by rfl

/-- Of the two imports of one module the first is matched with the first, and the second with the
second. -/
theorem context_of_importText :
    let config : Config := { importOrder := true }
    let found := importHunk.findings config importFile.path
    readDiff importText = .ok [importFile] ∧
    (Dialect.ofPath importFile.path).importsMayMove = true ∧
    importBlock.Reorders (Dialect.ofPath importFile.path) ∧
    ∃ left shown, (importHunk.sieve found).hunk = some left ∧
      (importHunk.flags found).StandsFor importHunk.lines left.lines importBlock shown ∧
      shown.length = 3 ∧
      left.lines =
        [.context "import a".toList 8 7, .context "import b".toList 7 8,
          .context "import a".toList 9 9, .context ['z'] 10 10, .removed ['x'] 11,
          .added ['y'] 11] := by
  intro config found
  have hmove : (Dialect.ofPath importFile.path).importsMayMove = true := by decide +kernel
  have hr : importBlock.Reorders (Dialect.ofPath importFile.path) :=
    (Block.blockTest_iff_reorders hmove).1 (by decide +kernel)
  obtain ⟨-, -, -, hcontext⟩ := reordered_imports_become_context readDiff_importText
    (List.mem_singleton_self _) (List.mem_singleton_self importHunk) hmove
  obtain ⟨left, hleft⟩ := Option.isSome_iff_exists.1
    (show (importHunk.sieve found).hunk.isSome = true by decide +kernel)
  obtain ⟨shown, hstands, hlines⟩ := hcontext config rfl left hleft importBlock
    (by decide +kernel) hr (by decide)
  refine ⟨readDiff_importText, hmove, hr, left, shown, hleft, hstands, hlines.length_eq.symm, ?_⟩
  rw [Hunk.lines_of_sieve hleft]
  decide +kernel

end DiffSieve
