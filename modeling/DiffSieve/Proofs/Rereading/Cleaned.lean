import DiffSieve.Proofs.Rereading.Structure
import DiffSieve.Proofs.Rereading.Writable
import DiffSieve.Proofs.Stripping
import Mathlib.Data.List.Nodup

/-!
# A cleaned diff read back

What is left of a diff can be written, and all of it is shown, so the text of a cleaned diff is
read as the files that are left, each reread (`readDiff_text_eq_ok_iff`).  The lines come back one
by one, but not with their numbers: a line that is left keeps the number it had, while the reader
counts the lines it meets.

So the question is how many lines stand before a line that is left, now and before
(`linesBefore`).  For an added line the answer is known from what stripping does to the new version:
the two counts differ by the added lines that were lost before it (`linesBefore_leftLines`).  In the
old version lines come as well as go, since an added line that becomes context is one of its lines,
and there the two counts are all that can be said.
-/

namespace DiffSieve

variable {config : Config} {passes : Text → Bool}

lemma mem_files_of_sieve {files : List File} {left : File}
    (h : left ∈ (sieve config passes files).files) :
    ∃ file ∈ files, left = { file with hunks := file.leftHunks config passes } ∧
      file.leftHunks config passes ≠ [] := by
  obtain ⟨result, hr, hleft⟩ := List.mem_flatMap.1 h
  obtain ⟨file, hf, rfl⟩ := List.mem_map.1 hr
  exact ⟨file, hf, File.mem_files_sieve.1 hleft⟩

lemma Hunk.Writable.left {hunk : Hunk} (h : hunk.Writable) (path : Text) :
    (hunk.withLines (hunk.leftLines config passes path)).Writable := by
  refine h.withLines ?_
  intro line hl
  unfold leftLines at hl
  split at hl
  · exact ⟨line, hl, rfl⟩
  · exact Flags.content_of_mem_stripLines hl

/-- What is left of files that can be written can be written. -/
lemma writable_sieve {files : List File} (h : ∀ file ∈ files, file.Writable) :
    ∀ left ∈ (sieve config passes files).files, left.Writable := by
  intro left hleft
  obtain ⟨file, hf, rfl, -⟩ := mem_files_of_sieve hleft
  refine { h file hf with hunks := ?_ }
  intro hunk hh
  obtain ⟨original, ho, rfl⟩ := List.mem_map.1 (List.mem_filter.1 hh).1
  exact ((h file hf).hunks original ho).left file.path

/-- Everything that is left of a diff is shown. -/
lemma hasChanges_sieve {files : List File} {left : File}
    (h : left ∈ (sieve config passes files).files) :
    left.hasChanges = true ∧ left.hunks.filter Hunk.hasChanges = left.hunks := by
  obtain ⟨file, hf, rfl, hne⟩ := mem_files_of_sieve h
  have hall : ∀ hunk ∈ file.leftHunks config passes, hunk.hasChanges = true :=
    fun hunk hh => (List.mem_filter.1 hh).2
  obtain ⟨hunk, hh⟩ := List.exists_mem_of_ne_nil _ hne
  exact ⟨List.any_eq_true.2 ⟨hunk, hh, hall hunk hh⟩, List.filter_eq_self.2 hall⟩

lemma clean_eq_ok_iff {text : Text} {cleaned : Cleaned} :
    clean config passes text = .ok cleaned ↔
      readDiff text = .ok cleaned.source ∧
        cleaned.sieved = sieve config passes cleaned.source := by
  unfold clean
  cases hread : readDiff text with
  | error fault => simp [Except.map]
  | ok files =>
    obtain ⟨source, sieved⟩ := cleaned
    simp only [Except.map, Except.ok.injEq, Cleaned.mk.injEq]
    constructor
    · rintro ⟨rfl, rfl⟩
      exact ⟨rfl, rfl⟩
    · rintro ⟨rfl, rfl⟩
      exact ⟨rfl, rfl⟩

/-- The text of a cleaned diff is read as the files left, reread, and it is read exactly if all
counts that it shows are read back. -/
lemma readDiff_text_eq_ok_iff {text : Text} {cleaned : Cleaned}
    (h : clean config passes text = .ok cleaned) {parsed : List File} :
    readDiff cleaned.text = .ok parsed ↔
      parsed = cleaned.sieved.files.map File.reread ∧ CountsReadable cleaned.sieved.files := by
  obtain ⟨hread, hsieved⟩ := clean_eq_ok_iff.1 h
  have hwritable : ∀ left ∈ cleaned.sieved.files, left.Writable := by
    rw [hsieved]
    exact writable_sieve (writable_of_readDiff hread)
  have hshown : cleaned.sieved.files.filter File.hasChanges = cleaned.sieved.files := by
    rw [hsieved]
    exact List.filter_eq_self.2 fun left hl => (hasChanges_sieve hl).1
  rw [Cleaned.text, readDiff_renderDiff_eq_ok_iff hwritable, hshown]

/-! ## Lines before a place -/

/-- How many lines of a version stand before a place. -/
def linesBefore (side : Side) (lines : List Line) (place : Nat) : Nat :=
  (lines.take place).countP (Line.standsIn side)

lemma getElem?_renumber (next : Sides Int) (lines : List Line) (j : Nat) :
    (renumber next lines)[j]? =
      lines[j]?.map (Line.withNumbers (next + Line.tally (lines.take j))) := by
  induction lines generalizing next j with
  | nil => rfl
  | cons line rest ih =>
    cases j with
    | zero => simp [renumber, Line.tally_nil, Sides.add_zero]
    | succ j =>
      rw [renumber, List.getElem?_cons_succ, List.getElem?_cons_succ, List.take_succ_cons,
        Line.tally_cons line (rest.take j), ← Sides.add_assoc, ih]

/-- The lines of a hunk that is read back are numbered by the lines before them. -/
lemma Hunk.getElem?_lines_reread (hunk : Hunk) (j : Nat) :
    hunk.reread.lines[j]? =
      hunk.lines[j]?.map fun line => line.chomped.withNumbers
        ⟨hunk.start.old + linesBefore .old hunk.lines j,
          hunk.start.new + linesBefore .new hunk.lines j⟩ := by
  rw [reread, getElem?_renumber, ← List.map_take, Line.tally_map_chomped, List.getElem?_map,
    Option.map_map]
  rfl

lemma length_newSide (lines : List Line) :
    (newSide lines).length = lines.countP (Line.standsIn .new) := by
  induction lines with
  | nil => rfl
  | cons line rest ih =>
    have hstep : newSide (line :: rest) = newSide [line] ++ newSide rest :=
      newSide_append [line] rest
    rw [hstep, List.length_append, ih, List.countP_cons]
    cases line <;> simp [newSide, Line.numberIn, Line.standsIn, Line.isNew, Nat.add_comm]

/-- A line stands in the new version after the lines of that version before it. -/
lemma getElem?_newSide_append {line : Line} {n : Int} (hn : n ∈ line.numberIn .new)
    (first rest : List Line) :
    (newSide (first ++ line :: rest))[first.countP (Line.standsIn .new)]? =
      some (line.content, n) := by
  have hentry : newSide (first ++ line :: rest) =
      newSide first ++ (line.content, n) :: newSide rest := by
    rw [newSide_append]
    exact congrArg (newSide first ++ ·) (List.filterMap_cons_some (by simp [Option.mem_def.1 hn]))
  rw [hentry, ← length_newSide, List.getElem?_append_right (Nat.le_refl _), Nat.sub_self]
  rfl

lemma getElem?_newSide {lines : List Line} {j : Nat} {line : Line} (h : lines[j]? = some line)
    {n : Int} (hn : n ∈ line.numberIn .new) :
    (newSide lines)[linesBefore .new lines j]? = some (line.content, n) := by
  have hlines : lines = lines.take j ++ line :: lines.drop (j + 1) := by
    obtain ⟨hlt, hline⟩ := List.getElem?_eq_some_iff.1 h
    rw [← hline, List.getElem_cons_drop, List.take_append_drop]
  have hentry := getElem?_newSide_append hn (lines.take j) (lines.drop (j + 1))
  rwa [← hlines] at hentry

/-! ## Lines left out -/

lemma withoutFrom_append (index : Nat) (places : List Nat) (first second : List Line) :
    withoutFrom index places (first ++ second) =
      withoutFrom index places first ++ withoutFrom (index + first.length) places second := by
  rw [withoutFrom, List.zipIdx_append, List.filter_append, List.map_append]
  rfl

/-- A line that stands at none of the given places divides the lines that are left. -/
lemma without_eq_of_not_mem {places : List Nat} {lines : List Line} {i : Nat} {line : Line}
    (hl : lines[i]? = some line) (hi : i ∉ places) :
    without places lines =
      withoutFrom 0 places (lines.take i) ++
        line :: withoutFrom (i + 1) places (lines.drop (i + 1)) := by
  obtain ⟨hlt, hline⟩ := List.getElem?_eq_some_iff.1 hl
  have hlines : lines = lines.take i ++ line :: lines.drop (i + 1) := by
    rw [← hline, List.getElem_cons_drop, List.take_append_drop]
  have hlength : 0 + (lines.take i).length = i := by
    rw [Nat.zero_add, List.length_take_of_le (Nat.le_of_lt hlt)]
  have hkept : places.contains i = false := by simpa using hi
  calc without places lines
      = withoutFrom 0 places (lines.take i ++ line :: lines.drop (i + 1)) := by
        rw [without, ← hlines]
    _ = _ := by
        rw [withoutFrom_append, hlength, withoutFrom_cons, hkept]
        rfl

/-- The first of the places from `index` on is one of them or it is not. -/
lemma countP_places_succ (places : List Nat) (index length : Nat) :
    places.countP (fun place => index ≤ place && place < index + (length + 1)) =
      places.count index +
        places.countP fun place => index + 1 ≤ place && place < index + 1 + length := by
  induction places with
  | nil => rfl
  | cons place rest ih =>
    have hhere : (if (index ≤ place && place < index + (length + 1)) = true then 1 else 0) =
        (if (place == index) = true then 1 else 0) +
          if (index + 1 ≤ place && place < index + 1 + length) = true then 1 else 0 := by
      simp only [Bool.and_eq_true, decide_eq_true_eq, beq_iff_eq]
      split <;> split <;> split <;> omega
    rw [List.countP_cons, List.countP_cons, List.count_cons, ih, hhere]
    omega

/-- Of the lines of the new version those are left that do not stand at a given place. -/
lemma countP_withoutFrom {places : List Nat} (hp : places.Nodup) {index : Nat} {lines : List Line}
    (h : ∀ (i : Nat) (line : Line), lines[i]? = some line → index + i ∈ places →
      line.isNew = true) :
    (withoutFrom index places lines).countP Line.isNew +
        places.countP (fun place => index ≤ place && place < index + lines.length) =
      lines.countP Line.isNew := by
  induction lines generalizing index with
  | nil =>
    have hnone : ∀ place ∈ places,
        ¬ (index ≤ place && place < index + ([] : List Line).length) = true := by
      intro place _
      simp
    rw [List.countP_eq_zero.2 hnone]
    rfl
  | cons line rest ih =>
    have hrest := @ih (index + 1) fun i other hl hm =>
      h (i + 1) other (by simpa using hl) (by rwa [show index + (i + 1) = index + 1 + i by omega])
    rw [withoutFrom_cons, List.countP_append, List.countP_cons, List.length_cons,
      countP_places_succ]
    by_cases hmem : index ∈ places
    · have hnew := h 0 line rfl (by simpa using hmem)
      rw [List.contains_iff_mem.2 hmem, List.count_eq_one_of_mem hp hmem, hnew]
      simp only [if_true, List.countP_nil]
      omega
    · rw [show places.contains index = false by simpa using hmem,
        List.count_eq_zero_of_not_mem hmem]
      simp only [Bool.false_eq_true, if_false, List.countP_singleton]
      omega

/-- A line that is left stands in the new version after the lines that are left before it. -/
lemma getElem?_newSide_without {places : List Nat} {lines : List Line} {i : Nat} {line : Line}
    (hl : lines[i]? = some line) (hi : i ∉ places) {n : Int} (hn : n ∈ line.numberIn .new) :
    (newSide (without places lines))[
      (withoutFrom 0 places (lines.take i)).countP (Line.standsIn .new)]? =
        some (line.content, n) := by
  rw [without_eq_of_not_mem hl hi]
  exact getElem?_newSide_append hn _ _

/-- No line stands twice in the new version of lines that are left. -/
lemma nodup_newSide_without {next : Sides Int} {lines : List Line} (h : Numbered next lines)
    (places : List Nat) : (newSide (without places lines)).Nodup := by
  apply (pairwise_newSide_without h places).imp
  intro entry entry' hlt heq
  rw [heq] at hlt
  exact absurd hlt (Int.lt_irrefl _)

/-- If lines of the new version are left out, then those before a place are the ones left before it
and the ones left out before it. -/
lemma linesBefore_eq_add_countP {places : List Nat} (hp : places.Nodup) {lines : List Line}
    {i : Nat} (hi : i ≤ lines.length)
    (h : ∀ (k : Nat) (line : Line), lines[k]? = some line → k ∈ places → line.isNew = true) :
    linesBefore .new lines i =
      (withoutFrom 0 places (lines.take i)).countP (Line.standsIn .new) +
        places.countP (· < i) := by
  have hnew : ∀ (k : Nat) (line : Line), (lines.take i)[k]? = some line → 0 + k ∈ places →
      line.isNew = true := by
    intro k line hk hmem
    rw [Nat.zero_add] at hmem
    rw [List.getElem?_take] at hk
    split at hk
    · exact h k line hk hmem
    · cases hk
  have hcount := countP_withoutFrom hp hnew
  rw [List.length_take_of_le hi] at hcount
  simp only [Nat.zero_le, decide_true, Bool.true_and, Nat.zero_add] at hcount
  exact hcount.symm

/-! ## Added lines that are lost -/

namespace Hunk

/-- The added lines that a hunk in the file at a path loses without a trace. -/
def lost (config : Config) (passes : Text → Bool) (path : Text) (hunk : Hunk) : List Edit :=
  if passes path then [] else (hunk.flags (hunk.findings config path)).dropped hunk.lines

variable {hunk : Hunk} {path : Text} {edit : Edit} {i j : Nat} {line : Line}

lemma newSide_leftLines (config : Config) (passes : Text → Bool) (path : Text) (hunk : Hunk) :
    newSide (hunk.leftLines config passes path) =
      newSide (without ((hunk.lost config passes path).map Edit.index) hunk.lines) := by
  unfold leftLines lost
  split
  · rw [List.map_nil, without_nil]
  · exact Flags.newSide_stripLines _ _

lemma getElem?_of_mem_lost (h : edit ∈ hunk.lost config passes path) :
    hunk.lines[edit.index]? = some (.added edit.content edit.number) := by
  unfold lost at h
  split at h
  · cases h
  · exact Flags.getElem?_of_mem_dropped h

lemma nodup_index_lost (config : Config) (passes : Text → Bool) (path : Text) (hunk : Hunk) :
    ((hunk.lost config passes path).map Edit.index).Nodup := by
  unfold lost
  split
  · exact .nil
  · exact Flags.nodup_index_dropped _ _

/-- A changed line that is left is no lost one. -/
lemma not_mem_index_lost (hn : Numbered hunk.start hunk.lines)
    (hl : line ∈ changesOf (hunk.leftLines config passes path)) (hi : hunk.lines[i]? = some line) :
    i ∉ (hunk.lost config passes path).map Edit.index := by
  unfold leftLines at hl
  unfold lost
  split at hl
  · simp [*]
  · next hp =>
    rw [if_neg hp]
    intro hmem
    obtain ⟨edit, he, rfl⟩ := List.mem_map.1 hmem
    have hline := Flags.getElem?_of_mem_dropped he
    obtain ⟨block, hb, hc, hin, hdrops⟩ := Flags.mem_dropped.1 he
    simp only [Flags.drops, Bool.and_eq_true, decide_eq_true_eq] at hdrops
    obtain ⟨⟨hside, hholds⟩, -⟩ := hdrops
    have htoLine : edit.toLine = .added edit.content edit.number := by rw [Edit.toLine, hside]
    rw [changesOf_stripLines hn, survivors, unflagged, List.mem_filter] at hl
    rw [hi] at hline
    have hunflagged :
        edit.toLine.isFlagged (Finding.flagged (hunk.findings config path)) = false := by
      rw [htoLine, ← Option.some.inj hline]
      simpa using (Bool.and_eq_true_iff.1 hl.2).2
    rw [Edit.isFlagged_toLine, holds_flagged_iff_of_not_collapses hn hb hc hin, hholds]
      at hunflagged
    contradiction

/-- As many lines of the new version stand before an added line as stood there before, without the
lost ones. -/
lemma linesBefore_leftLines (hn : Numbered hunk.start hunk.lines) {content : Text} {n : Int}
    (hi : hunk.lines[i]? = some (.added content n))
    (hj : (hunk.leftLines config passes path)[j]? = some (.added content n)) :
    linesBefore .new (hunk.leftLines config passes path) j +
        (hunk.lost config passes path).countP (·.index < i) =
      linesBefore .new hunk.lines i := by
  have hnumber : n ∈ (Line.added content n).numberIn .new := rfl
  have hkept := not_mem_index_lost hn (List.mem_filter.2 ⟨List.mem_of_getElem? hj, rfl⟩) hi
  -- The lines left and the lines without the lost ones have the same new version, and the line is
  -- found only once in it.
  have hleft := getElem?_newSide hj hnumber
  rw [newSide_leftLines] at hleft
  have hplace := (List.getElem?_inj (List.getElem?_eq_some_iff.1 hleft).1
    (nodup_newSide_without hn _)).1 (hleft.trans (getElem?_newSide_without hi hkept hnumber).symm)
  have hnew : ∀ (k : Nat) (line : Line), hunk.lines[k]? = some line →
      k ∈ (hunk.lost config passes path).map Edit.index → line.isNew = true := by
    intro k line hk hmem
    obtain ⟨edit, he, rfl⟩ := List.mem_map.1 hmem
    rw [getElem?_of_mem_lost he] at hk
    rw [← Option.some.inj hk]
    rfl
  have hcount := linesBefore_eq_add_countP (nodup_index_lost config passes path hunk)
    (Nat.le_of_lt (List.getElem?_eq_some_iff.1 hi).1) hnew
  rw [hcount, hplace, List.countP_map]
  rfl

/-- How the lines that are left of a hunk in the file at a path are read back: one by one, up to a
carriage return at the end, and with the number that a line had less the lines of its version that
no longer stand before it. -/
structure CleanedAs (config : Config) (passes : Text → Bool) (path : Text) (hunk left back : Hunk) :
    Prop where
  left_eq : left = hunk.withLines (hunk.leftLines config passes path)
  start : back.start = hunk.start
  lines : back.lines.map (fun line => (line.mark, line.content)) =
    left.lines.map fun line => (line.mark, Text.dropFinal '\r' line.content)
  original : ∀ line ∈ changesOf left.lines, line ∈ hunk.lines
  removed : ∀ (i j : Nat) content n, hunk.lines[i]? = some (.removed content n) →
    left.lines[j]? = some (.removed content n) →
      back.lines[j]? = some (.removed (Text.dropFinal '\r' content)
        (n - linesBefore .old hunk.lines i + linesBefore .old left.lines j))
  added : ∀ (i j : Nat) content n, hunk.lines[i]? = some (.added content n) →
    left.lines[j]? = some (.added content n) →
      back.lines[j]? = some (.added (Text.dropFinal '\r' content)
        (n - (hunk.lost config passes path).countP (·.index < i)))

lemma mem_of_mem_changesOf_leftLines (hn : Numbered hunk.start hunk.lines)
    (hl : line ∈ changesOf (hunk.leftLines config passes path)) : line ∈ hunk.lines := by
  unfold leftLines at hl
  split at hl
  · exact (List.mem_filter.1 hl).1
  · rw [changesOf_stripLines hn] at hl
    exact (List.mem_filter.1 hl).1

/-- What is left of a numbered hunk is read back as told. -/
lemma cleanedAs_reread (config : Config) (passes : Text → Bool) (path : Text)
    (hn : Numbered hunk.start hunk.lines) :
    let left := hunk.withLines (hunk.leftLines config passes path)
    hunk.CleanedAs config passes path left left.reread where
  left_eq := rfl
  start := rfl
  lines := (readsAs_reread _).lines
  original := fun _ hl => mem_of_mem_changesOf_leftLines hn hl
  removed := by
    intro i j content n hi hj
    have hnumber : n = hunk.start.at .old + linesBefore .old hunk.lines i :=
      hn.eq_of_mem_numberIn hi rfl
    have hcounter : n - linesBefore .old hunk.lines i +
        linesBefore .old (hunk.leftLines config passes path) j =
          hunk.start.old + linesBefore .old (hunk.leftLines config passes path) j := by
      rw [hnumber, Int.add_sub_cancel]
      rfl
    rw [getElem?_lines_reread, hj, Option.map_some]
    exact congrArg (fun number => some (Line.removed _ number)) hcounter.symm
  added := by
    intro i j content n hi hj
    have hnumber : n = hunk.start.at .new + linesBefore .new hunk.lines i :=
      hn.eq_of_mem_numberIn hi rfl
    have hbefore := linesBefore_leftLines hn hi hj
    have hcounter : n - (hunk.lost config passes path).countP (·.index < i) =
        hunk.start.new + linesBefore .new (hunk.leftLines config passes path) j := by
      rw [hnumber, ← hbefore, Sides.at]
      omega
    rw [getElem?_lines_reread, hj, Option.map_some]
    exact congrArg (fun number => some (Line.added _ number)) hcounter.symm

end Hunk

/-! ## The whole diff -/

/-- The text of a cleaned diff is read as the files and the hunks that are left, in order, and each
line that is left is read back with the number of a counter that begins at the start of its hunk and
knows nothing of the lines taken out. -/
theorem cleaned_lines_are_counted_anew {text : Text} {cleaned : Cleaned}
    (h : clean config passes text = .ok cleaned) :
    (∃ parsed, readDiff cleaned.text = .ok parsed ∧
      List.Forall₂ (fun left back => ∃ file ∈ cleaned.source,
        left = { file with hunks := file.leftHunks config passes } ∧
          List.Forall₂ (fun hunkLeft hunkBack => ∃ hunk ∈ file.hunks,
            hunk.CleanedAs config passes file.path hunkLeft hunkBack) left.hunks back.hunks)
        cleaned.sieved.files parsed) ↔
      CountsReadable cleaned.sieved.files := by
  obtain ⟨hread, hsieved⟩ := clean_eq_ok_iff.1 h
  constructor
  · rintro ⟨parsed, hparsed, -⟩
    exact ((readDiff_text_eq_ok_iff h).1 hparsed).2
  · intro hcounts
    refine ⟨_, (readDiff_text_eq_ok_iff h).2 ⟨rfl, hcounts⟩, ?_⟩
    rw [List.forall₂_map_right_iff, List.forall₂_same]
    intro left hleft
    rw [hsieved] at hleft
    have hshown := (hasChanges_sieve hleft).2
    obtain ⟨file, hf, rfl, -⟩ := mem_files_of_sieve hleft
    refine ⟨file, hf, rfl, ?_⟩
    rw [File.reread, hshown, List.forall₂_map_right_iff, List.forall₂_same]
    intro hunkLeft hh
    obtain ⟨hunk, ho, rfl⟩ := List.mem_map.1 (List.mem_filter.1 hh).1
    exact ⟨hunk, ho, Hunk.cleanedAs_reread _ _ _ (isCounted_of_readDiff hread hf ho).numbered⟩

/-- A diff that adds a blank line before a line in which only the spaces differ. -/
def blankLineText : Text :=
  ["diff --git a/x.ts b/x.ts", "--- a/x.ts", "+++ b/x.ts", "@@ -1,1 +1,2 @@", "-x = 1", "+",
    "+x  = 1"].flatMap fun line => line.toList ++ ['\n']

def blankLineFile : File where
  path := "x.ts".toList
  source := some "x.ts".toList
  target := some "x.ts".toList
  kind := .modify
  metadata := {}
  hunks :=
    [{ header := "@@ -1,1 +1,2 @@".toList, heading := [], start := ⟨1, 1⟩, count := ⟨1, 2⟩
       declared := ⟨1, 2⟩
       lines := [.removed "x = 1".toList 1, .added [] 1, .added "x  = 1".toList 2] }]

/-- That diff without changes of white space. -/
def blankLineCleaned : Cleaned where
  source := [blankLineFile]
  sieved := sieve { whitespace := true } (fun _ => false) [blankLineFile]

lemma clean_blankLineText :
    clean { whitespace := true } (fun _ => false) blankLineText = .ok blankLineCleaned := by rfl

/-- Without the blank line the added line has the number 2 still, and is read back with 1. -/
theorem renumbered_of_blankLineText :
    clean { whitespace := true } (fun _ => false) blankLineText = .ok blankLineCleaned ∧
    changesOf (allLines blankLineCleaned.sieved.files) =
      [.removed "x = 1".toList 1, .added "x  = 1".toList 2] ∧
    ∃ parsed, readDiff blankLineCleaned.text = .ok parsed ∧
      changesOf (allLines parsed) = [.removed "x = 1".toList 1, .added "x  = 1".toList 1] := by
  refine ⟨clean_blankLineText, by decide +kernel, ?_⟩
  have hcounts : CountsReadable blankLineCleaned.sieved.files := by
    refine countsReadable_of_length_lt ?_
    decide +kernel
  exact ⟨_, (readDiff_text_eq_ok_iff clean_blankLineText).2 ⟨rfl, hcounts⟩, by decide +kernel⟩

theorem counted_anew_of_blankLineText :
    ∃ parsed, readDiff blankLineCleaned.text = .ok parsed ∧
      List.Forall₂ (fun left back => ∃ file ∈ [blankLineFile],
        left = { file with hunks := file.leftHunks { whitespace := true } fun _ => false } ∧
          List.Forall₂ (fun hunkLeft hunkBack => ∃ hunk ∈ file.hunks,
            hunk.CleanedAs { whitespace := true } (fun _ => false) file.path hunkLeft hunkBack)
            left.hunks back.hunks)
        blankLineCleaned.sieved.files parsed := by
  refine (cleaned_lines_are_counted_anew clean_blankLineText).2 ?_
  refine countsReadable_of_length_lt ?_
  decide +kernel

end DiffSieve
