import DiffSieve.Proofs.Blocks
import DiffSieve.Proofs.Choice

/-!
# Statements wrapped in another way

The detector of wrapped lines decides block by block, but it hands over nothing but numbers, and
stripping has to recognise the blocks by them.  It recognises the rewrapped blocks and no others
(`Hunk.collapses_iff`).  Such a block becomes context as a whole, and its lines are numbered in the
old version by place: the added line at place `k` has the number of the removed line at place `k`,
and those beyond the last removed line all have the number of that one (`Block.getElem?_collapsed`).
Other detections in the block do not matter.

In the other direction the category leaves no trace outside the blocks it recognises: every other
block is stripped as if the category had not been chosen (`Hunk.stripBlock_eq_without`).
-/

namespace DiffSieve

open Detection

/-! ## Old numbers by place -/

/-- The added line at a place has the number at that place, or the last one if there are fewer. -/
lemma getElem?_asContext (last : Int) (numbers : List Int) (added : List Edit) (k : Nat) :
    (asContext last numbers added)[k]? = added[k]?.map fun edit =>
      .context edit.content (numbers[k]?.getD (numbers.getLastD last)) edit.number := by
  induction added generalizing last numbers k with
  | nil => cases numbers <;> rfl
  | cons edit rest ih =>
    cases numbers with
    | nil =>
      -- The numbers are used up, and the last one is handed on.
      cases k with
      | zero => rfl
      | succ k => exact ih last [] k
    | cons number more =>
      cases k with
      | zero => rfl
      | succ k =>
        rw [asContext, List.getElem?_cons_succ, ih, List.getElem?_cons_succ,
          List.getElem?_cons_succ, List.getLastD_cons]

lemma length_asContext (last : Int) (numbers : List Int) (added : List Edit) :
    (asContext last numbers added).length = added.length := by
  induction added generalizing last numbers with
  | nil => cases numbers <;> rfl
  | cons edit rest ih =>
    cases numbers with
    | nil => exact congrArg (· + 1) (ih last [])
    | cons number more => exact congrArg (· + 1) (ih number more)

/-- The number at a place, or the last one, is the one at the place or at the last place. -/
lemma getElem?_min_eq_getD {numbers : List Int} (h : numbers ≠ []) (last : Int) (k : Nat) :
    numbers[min k (numbers.length - 1)]? = some (numbers[k]?.getD (numbers.getLastD last)) := by
  have hlength := List.length_pos_iff.2 h
  by_cases hk : k < numbers.length
  · rw [Nat.min_eq_left (by omega), List.getElem?_eq_getElem hk]
    rfl
  · rw [Nat.min_eq_right (by omega), ← List.getLast?_eq_getElem?,
      List.getElem?_eq_none (Nat.le_of_not_lt hk), List.getLastD_eq_getLast?,
      List.getLast?_eq_some_getLast h]
    rfl

namespace Block

variable {block : Block}

lemma length_collapsed (h : block.removed ≠ []) :
    block.collapsed.length = block.added.length := by
  unfold collapsed
  split
  · next hnil => exact absurd (List.map_eq_nil_iff.1 hnil) h
  · exact length_asContext _ _ _

/-- A block as context has its added lines, each with the number of the removed line at its place,
or of the last one. -/
lemma getElem?_collapsed (h : block.removed ≠ []) {k : Nat} {edit : Edit}
    (hk : block.added[k]? = some edit) :
    ∃ old, block.removed[min k (block.removed.length - 1)]? = some old ∧
      block.collapsed[k]? = some (.context edit.content old.number edit.number) := by
  have hlength := List.length_pos_iff.2 h
  have hplace : min k (block.removed.length - 1) < block.removed.length := by omega
  refine ⟨_, List.getElem?_eq_getElem hplace, ?_⟩
  unfold collapsed
  split
  · next hnil => exact absurd (List.map_eq_nil_iff.1 hnil) h
  · next number more hnumbers =>
    have hnumber := getElem?_min_eq_getD (List.cons_ne_nil number more) number k
    rw [← hnumbers, List.length_map, List.getElem?_map, List.getElem?_eq_getElem hplace] at hnumber
    rw [getElem?_asContext, hk, ← hnumbers, ← Option.some.inj hnumber]
    rfl

lemma exists_of_getElem?_collapsed (h : block.removed ≠ []) {k : Nat} {line : Line}
    (hk : block.collapsed[k]? = some line) :
    ∃ old new, block.removed[min k (block.removed.length - 1)]? = some old ∧
      block.added[k]? = some new ∧ line = .context new.content old.number new.number := by
  have hlt : k < block.added.length := by
    rw [← length_collapsed h]
    exact (List.getElem?_eq_some_iff.1 hk).1
  have hadded := List.getElem?_eq_getElem hlt
  obtain ⟨old, hold, hline⟩ := getElem?_collapsed h hadded
  exact ⟨old, _, hold, hadded, Option.some.inj (hk.symm.trans hline)⟩

end Block

/-! ## Blocks that are recognised -/

lemma isRewrapped_iff {old new : Text} :
    isRewrapped old new = true ↔ old ≠ new ∧ ∃ oldTokens newTokens,
      Token.tokens old = .ok oldTokens ∧ Token.tokens new = .ok newTokens ∧
        Token.dropWrapCommas oldTokens = Token.dropWrapCommas newTokens := by
  rw [isRewrapped, Bool.and_eq_true, bne_iff_ne, wrapTokens, wrapTokens]
  refine and_congr_right fun _ => ?_
  cases Token.tokens old <;> cases Token.tokens new <;> simp [Except.map]

lemma blockTest_lineWrap_iff {dialect : Dialect} {block : Block} :
    blockTest dialect .lineWrap block = true ↔
      dialect.linesMayWrap = true ∧ block.removed ≠ [] ∧ block.added ≠ [] ∧
        joined block.removed ≠ joined block.added ∧ ∃ oldTokens newTokens,
          Token.tokens (joined block.removed) = .ok oldTokens ∧
          Token.tokens (joined block.added) = .ok newTokens ∧
          Token.dropWrapCommas oldTokens = Token.dropWrapCommas newTokens := by
  rw [blockTest, Bool.and_eq_true, isRewrapping, Bool.and_eq_true, Block.isTwoSided_iff,
    isRewrapped_iff, and_assoc]

/-! ## A category left out -/

/-- The same choice without one category. -/
def Config.without (config : Config) (dropped : Category) : Config :=
  ofPredicate (fun category => config.ignores category && category ≠ dropped) config.language

lemma Config.ignores_without (config : Config) (dropped category : Category) :
    (config.without dropped).ignores category =
      (config.ignores category && category ≠ dropped) :=
  ignores_ofPredicate _ _ _

namespace Hunk

variable {hunk : Hunk} {config : Config} {path : Text} {block : Block}

lemma findings_without (hunk : Hunk) (config : Config) (dropped : Category) (path : Text) :
    hunk.findings (config.without dropped) path =
      (hunk.findings config path).filter (·.category ≠ dropped) := by
  have hfewer : ∀ c, (config.without dropped).ignores c = true → config.ignores c = true := by
    intro c hc
    rw [Config.ignores_without, Bool.and_eq_true] at hc
    exact hc.1
  rw [findings, findings_eq_filter hfewer, findings]
  apply List.filter_congr
  intro finding hf
  rw [Config.ignores_without, (mem_findings.1 hf).1, Bool.true_and]

/-- What is flagged as single lines does not come from the category of wrapped lines. -/
lemma lines_flags_without (hunk : Hunk) (config : Config) (path : Text) :
    (hunk.flags (hunk.findings (config.without .lineWrap) path)).lines =
      (hunk.flags (hunk.findings config path)).lines := by
  unfold flags Flags.ofDetections
  simp only [findings_without, List.filter_map, List.filter_filter]
  congr 2
  congr 1
  apply List.filter_congr
  intro finding _
  cases hcategory : finding.category <;> simp [hcategory, Category.scope]

lemma pairs_flags_without (hunk : Hunk) (config : Config) (path : Text) :
    (hunk.flags (hunk.findings (config.without .lineWrap) path)).pairs =
      (hunk.flags (hunk.findings config path)).pairs := by
  have hcontent : ∀ finding ∈ hunk.findings config path, finding.category ≠ .importOrder →
      finding.detection.pairs = [] := fun finding hf => pairs_eq_nil_of_mem_findings hf
  have hfewer : ∀ finding ∈ (hunk.findings config path).filter (·.category ≠ .lineWrap),
      finding.category ≠ .importOrder → finding.detection.pairs = [] :=
    fun finding hf => hcontent finding (List.mem_filter.1 hf).1
  rw [pairs_flags, pairs_flags, findings_without, contentPairs_eq_filter hfewer,
    contentPairs_eq_filter hcontent, List.filter_filter]
  congr 2
  apply List.filter_congr
  intro finding _
  cases finding.category <;> simp

/-- A block that does not become context as a whole is treated edit by edit, as if the category of
wrapped lines had not been chosen. -/
lemma stripBlock_eq_without
    (h : (hunk.flags (hunk.findings config path)).collapses block = false) :
    (hunk.flags (hunk.findings config path)).stripBlock block =
      block.flatMap (hunk.flags (hunk.findings (config.without .lineWrap) path)).stripEdit := by
  rw [Flags.stripBlock, h, if_neg Bool.false_ne_true]
  apply List.flatMap_congr
  intro edit _
  rw [Flags.stripEdit, Flags.stripEdit, Flags.partner?, Flags.partner?, lines_flags_without,
    pairs_flags_without]

end Hunk

/-- In a diff that was read, and with the category of wrapped lines chosen, a block becomes context
as a whole exactly if lines may wrap in the files at a path, the block has lines of both versions,
the joined texts of the two versions differ, both have tokens, and these are the same up to the
commas that come with a wrap.  If the hunk is kept, then what takes the place of such a block is one
context line for each added line, the one at place `k` with the number of the removed line at place
`k`, or of the last one, whatever else is flagged in the block.  What takes the place of any other
block is what would do so without the category. -/
theorem rewrapped_blocks_become_context {text : Text} {files : List File}
    (h : readDiff text = .ok files) {file : File} (hf : file ∈ files) {hunk : Hunk}
    (hh : hunk ∈ file.hunks) (path : Text) {config : Config}
    (hc : config.ignores .lineWrap = true) {block : Block} (hb : block ∈ blocks hunk.lines) :
    let flags := hunk.flags (hunk.findings config path)
    (flags.collapses block = true ↔
      (Dialect.ofPath path).linesMayWrap = true ∧ block.removed ≠ [] ∧ block.added ≠ [] ∧
        joined block.removed ≠ joined block.added ∧ ∃ oldTokens newTokens,
          Token.tokens (joined block.removed) = .ok oldTokens ∧
          Token.tokens (joined block.added) = .ok newTokens ∧
          Token.dropWrapCommas oldTokens = Token.dropWrapCommas newTokens) ∧
    ∀ left, (hunk.sieve (hunk.findings config path)).hunk = some left →
      (flags.collapses block = true →
        ∃ shown, flags.StandsFor hunk.lines left.lines block shown ∧
          shown.length = block.added.length ∧
          ∀ (k : Nat) (edit : Edit), block.added[k]? = some edit →
            ∃ old, block.removed[min k (block.removed.length - 1)]? = some old ∧
              shown[k]? = some (.context edit.content old.number edit.number)) ∧
      (flags.collapses block = false →
        flags.StandsFor hunk.lines left.lines block
          (block.flatMap
            (hunk.flags (hunk.findings (config.without .lineWrap) path)).stripEdit)) := by
  intro flags
  have hn := (isCounted_of_readDiff h hf hh).numbered
  have hcollapses : flags.collapses block = true ↔ _ :=
    (Hunk.collapses_iff hn hb).trans (and_congr_right fun _ => blockTest_lineWrap_iff)
  refine ⟨hcollapses.trans (and_iff_right hc), ?_⟩
  intro left hleft
  have hstands := Hunk.standsFor_of_sieve hleft hb
  constructor
  · intro hwhole
    obtain ⟨-, -, hremoved, -⟩ := hcollapses.1 hwhole
    rw [Flags.stripBlock, if_pos hwhole] at hstands
    exact ⟨_, hstands, Block.length_collapsed hremoved,
      fun k edit hk => Block.getElem?_collapsed hremoved hk⟩
  · intro hpart
    rwa [Hunk.stripBlock_eq_without hpart] at hstands

/-- A diff that wraps a call of two lines over three, and changes the spaces of another line. -/
def wrapText : Text :=
  ["diff --git a/x.ts b/x.ts", "@@ -1,5 +1,6 @@", "-f(a,", "+f(", "-b);", "+a, b", "+);", " z",
    "-a = 1", "-x", "+a  = 1", "+y"].flatMap fun line => line.toList ++ ['\n']

def wrapHunk : Hunk where
  header := "@@ -1,5 +1,6 @@".toList
  heading := []
  start := ⟨1, 1⟩
  count := ⟨5, 6⟩
  declared := ⟨5, 6⟩
  lines :=
    [.removed "f(a,".toList 1, .added "f(".toList 1, .removed "b);".toList 2,
      .added "a, b".toList 2, .added ");".toList 3, .context ['z'] 3 4, .removed "a = 1".toList 4,
      .removed ['x'] 5, .added "a  = 1".toList 5, .added ['y'] 6]

def wrapFile : File where
  path := "x.ts".toList
  source := some "x.ts".toList
  target := some "x.ts".toList
  kind := .modify
  metadata := {}
  hunks := [wrapHunk]

def wrapBlock : Block :=
  [⟨0, .old, "f(a,".toList, 1⟩, ⟨1, .new, "f(".toList, 1⟩, ⟨2, .old, "b);".toList, 2⟩,
    ⟨3, .new, "a, b".toList, 2⟩, ⟨4, .new, ");".toList, 3⟩]

lemma readDiff_wrapText : readDiff wrapText = .ok [wrapFile] := by rfl

/-- The third line of the wrapped call has the number of the last line that the call had. -/
theorem context_of_wrapText :
    let config : Config := { whitespace := true, lineWrap := true }
    let found := wrapHunk.findings config wrapFile.path
    readDiff wrapText = .ok [wrapFile] ∧ config.ignores .lineWrap = true ∧
    wrapBlock ∈ blocks wrapHunk.lines ∧
    ∃ left shown, (wrapHunk.sieve found).hunk = some left ∧
      (wrapHunk.flags found).StandsFor wrapHunk.lines left.lines wrapBlock shown ∧
      shown.length = 3 ∧ shown[2]? = some (.context ");".toList 2 3) ∧
      left.lines =
        [.context "f(".toList 1 1, .context "a, b".toList 2 2, .context ");".toList 2 3,
          .context ['z'] 3 4, .removed ['x'] 5, .context "a  = 1".toList 4 5, .added ['y'] 6] := by
  intro config found
  have hc : config.ignores .lineWrap = true := rfl
  have hb : wrapBlock ∈ blocks wrapHunk.lines := by decide +kernel
  obtain ⟨-, hleft⟩ := rewrapped_blocks_become_context readDiff_wrapText
    (List.mem_singleton_self _) (List.mem_singleton_self wrapHunk) wrapFile.path hc hb
  obtain ⟨left, hl⟩ := Option.isSome_iff_exists.1
    (show (wrapHunk.sieve found).hunk.isSome = true by decide +kernel)
  obtain ⟨shown, hstands, hlength, hlines⟩ := (hleft left hl).1 (by decide +kernel)
  obtain ⟨old, hold, hthird⟩ := hlines 2 ⟨4, .new, ");".toList, 3⟩ (by decide +kernel)
  have hlast : some old = some ⟨2, .old, "b);".toList, 2⟩ := hold.symm.trans (by decide +kernel)
  obtain rfl := Option.some.inj hlast
  refine ⟨readDiff_wrapText, hc, hb, left, shown, hl, hstands, hlength, hthird, ?_⟩
  rw [Hunk.lines_of_sieve hl]
  decide +kernel

end DiffSieve
