import DiffSieve.Proofs.Flagging
import DiffSieve.Proofs.Reader
import Mathlib.Data.List.Basic

/-!
# What survives the sieve

The changed lines that a sieved hunk still holds are the changed lines of the hunk whose numbers no
detector flagged, untouched and in their order.

Two ways lead out of a hunk, and both are followed block by block.  A block that becomes context as
a whole leaves no changed line, and all its lines are flagged; in any other block a line is flagged
by the detectors of single lines if it is flagged at all, since a line flagged by the detector of
wrapped lines would take its whole block with it.  The second half needs numbers that are unique in
each version, and a hunk that was read has such numbers.
-/

namespace DiffSieve

/-! ## Changed lines without a flag -/

/-- Whether the number of a changed line is among the given ones of its version. -/
def Line.isFlagged (flagged : Sides NumberSet) : Line → Bool
  | .context .. => false
  | .removed _ old => old ∈ flagged.old
  | .added _ new => new ∈ flagged.new

/-- The changed lines among some lines. -/
def changesOf (lines : List Line) : List Line :=
  lines.filter (!·.isContext)

/-- The changed lines whose numbers are not among the given ones. -/
def unflagged (flagged : Sides NumberSet) (lines : List Line) : List Line :=
  lines.filter fun line => !line.isContext && !line.isFlagged flagged

/-- The changed lines of a hunk in the file at a path that no finding flags. -/
def Hunk.survivors (config : Config) (path : Text) (hunk : Hunk) : List Line :=
  unflagged (Finding.flagged (hunk.findings config path)) hunk.lines

@[simp] lemma Edit.isContext_toLine (edit : Edit) : edit.toLine.isContext = false := by
  unfold Edit.toLine
  cases edit.side <;> rfl

lemma Edit.content_toLine (edit : Edit) : edit.toLine.content = edit.content := by
  rw [toLine]
  cases edit.side <;> rfl

@[simp] lemma Edit.isFlagged_toLine (flagged : Sides NumberSet) (edit : Edit) :
    edit.toLine.isFlagged flagged = Flags.holds flagged edit := by
  unfold Edit.toLine Flags.holds
  cases edit.side <;> rfl

lemma unflagged_map_toLine (flagged : Sides NumberSet) (edits : List Edit) :
    unflagged flagged (edits.map Edit.toLine) =
      (edits.filter fun edit => !Flags.holds flagged edit).map Edit.toLine := by
  simp [unflagged, List.filter_map, Function.comp_def]

lemma unflagged_eq_flatMap_segments (flagged : Sides NumberSet) (lines : List Line) :
    unflagged flagged lines = (segments lines).flatMap fun s => unflagged flagged s.toLines := by
  have hlines := Segment.flatMap_toLines_segmentsFrom 0 lines
  calc unflagged flagged lines
      = unflagged flagged ((segments lines).flatMap Segment.toLines) := by rw [segments, hlines]
    _ = (segments lines).flatMap fun s => unflagged flagged s.toLines := by
        rw [unflagged, List.filter_flatMap]
        rfl

/-! ## Changed lines of a stripped hunk -/

lemma changesOf_asContext (last : Int) (numbers : List Int) (added : List Edit) :
    changesOf (asContext last numbers added) = [] := by
  induction added generalizing last numbers with
  | nil => cases numbers <;> rfl
  | cons edit rest ih =>
    cases numbers with
    | nil => exact ih last []
    | cons number more => exact ih number more

lemma changesOf_collapsed (block : Block) : changesOf block.collapsed = [] := by
  unfold Block.collapsed
  split
  · rfl
  · exact changesOf_asContext _ _ _

lemma changesOf_stripEdit (flags : Flags) (edit : Edit) :
    changesOf (flags.stripEdit edit) =
      if Flags.holds flags.lines edit = true then [] else [edit.toLine] := by
  unfold Flags.stripEdit
  split
  · repeat' split
    all_goals rfl
  · simp [changesOf]

lemma changesOf_flatMap_stripEdit (flags : Flags) (block : Block) :
    changesOf (block.flatMap flags.stripEdit) =
      (block.filter fun edit => !Flags.holds flags.lines edit).map Edit.toLine := by
  induction block with
  | nil => rfl
  | cons edit rest ih =>
    rw [List.flatMap_cons, changesOf, List.filter_append]
    rw [changesOf] at ih
    rw [ih, ← changesOf, changesOf_stripEdit, List.filter_cons]
    cases Flags.holds flags.lines edit <;> rfl

namespace Hunk

variable {hunk : Hunk} {config : Config} {path : Text}

lemma changesOf_stripBlock (hn : Numbered hunk.start hunk.lines) {block : Block}
    (hb : block ∈ blocks hunk.lines) :
    changesOf ((hunk.flags (hunk.findings config path)).stripBlock block) =
      unflagged (Finding.flagged (hunk.findings config path)) (block.map Edit.toLine) := by
  rw [Flags.stripBlock, unflagged_map_toLine]
  split
  · next hc =>
    have hall : ∀ edit ∈ block,
        ¬(!Flags.holds (Finding.flagged (hunk.findings config path)) edit) = true := by
      intro edit he
      simp [holds_flagged_of_collapses hn hb hc he]
    rw [changesOf_collapsed, List.filter_eq_nil_iff.2 hall, List.map_nil]
  · next hc =>
    rw [changesOf_flatMap_stripEdit]
    congr 1
    apply List.filter_congr
    intro edit he
    rw [holds_flagged_iff_of_not_collapses hn hb (by simpa using hc) he]

/-- The changed lines that stripping leaves are the ones without a flag. -/
lemma changesOf_stripLines (hn : Numbered hunk.start hunk.lines) :
    changesOf ((hunk.flags (hunk.findings config path)).stripLines hunk.lines) =
      hunk.survivors config path := by
  rw [survivors, unflagged_eq_flatMap_segments, Flags.stripLines, changesOf, List.filter_flatMap]
  apply List.flatMap_congr
  intro segment hs
  cases segment with
  | context content old new => rfl
  | block edits =>
    have hb : edits ∈ blocks hunk.lines := mem_blocks.2 hs
    exact changesOf_stripBlock hn hb

/-- A hunk is kept exactly if stripping leaves a changed line. -/
lemma hunk_strip (hunk : Hunk) (flags : Flags) :
    (hunk.strip flags).hunk =
      if changesOf (flags.stripLines hunk.lines) = [] then none
      else some (hunk.withLines (flags.stripLines hunk.lines)) := by
  have hiff : (hunk.withLines (flags.stripLines hunk.lines)).hasChanges = true ↔
      changesOf (flags.stripLines hunk.lines) ≠ [] := by
    simp [hasChanges, withLines, changesOf]
  unfold strip
  by_cases h : changesOf (flags.stripLines hunk.lines) = []
  · simp [hiff, h]
  · simp [hiff, h]

/-- A hunk that is kept holds what stripping leaves of its lines. -/
lemma lines_of_sieve {left : Hunk} {found : List Finding}
    (h : (hunk.sieve found).hunk = some left) :
    left.lines = (hunk.flags found).stripLines hunk.lines := by
  rw [sieve, hunk_strip] at h
  split at h
  · cases h
  · rw [← Option.some.inj h]
    rfl

lemma hunk_sieve_eq_none_iff (hn : Numbered hunk.start hunk.lines) :
    (hunk.sieve (hunk.findings config path)).hunk = none ↔ hunk.survivors config path = [] := by
  rw [sieve, hunk_strip, changesOf_stripLines hn]
  split <;> simp_all

/-- The changed lines of a sieved hunk; none if nothing is left of it. -/
lemma changesOf_sieve (hn : Numbered hunk.start hunk.lines) :
    ((hunk.sieve (hunk.findings config path)).hunk.elim [] fun left => changesOf left.lines) =
      hunk.survivors config path := by
  rw [sieve, hunk_strip]
  split
  · next h => rw [← changesOf_stripLines hn, h]; rfl
  · exact changesOf_stripLines hn

/-- A finding flags nothing but changed lines of the hunk. -/
lemma exists_edit_of_flagged {side : Side} {n : Int}
    (h : n ∈ (Finding.flagged (hunk.findings config path)).at side) :
    ∃ edit ∈ edits hunk.lines, edit.side = side ∧ edit.number = n := by
  obtain ⟨detection, hd, hmem⟩ := Flags.mem_unite.1 h
  obtain ⟨finding, hf, rfl⟩ := List.mem_map.1 hd
  obtain ⟨-, hdetection, -⟩ := mem_findings.1 hf
  rw [hdetection, Detection.flagged_ofCategory] at hmem
  obtain ⟨edit, he, hside, hnumber⟩ := Flags.mem_numbers.1 hmem
  exact ⟨edit, Detection.mem_edits_of_mem_flaggedEdits he, hside, hnumber⟩

lemma exists_removed_of_flagged {n : Int}
    (h : n ∈ (Finding.flagged (hunk.findings config path)).old) :
    ∃ content, Line.removed content n ∈ hunk.lines := by
  obtain ⟨edit, he, hside, rfl⟩ := exists_edit_of_flagged (show n ∈ Sides.at _ .old from h)
  have hline := toLine_mem he
  rw [Edit.toLine, hside] at hline
  exact ⟨edit.content, hline⟩

lemma exists_added_of_flagged {n : Int}
    (h : n ∈ (Finding.flagged (hunk.findings config path)).new) :
    ∃ content, Line.added content n ∈ hunk.lines := by
  obtain ⟨edit, he, hside, rfl⟩ := exists_edit_of_flagged (show n ∈ Sides.at _ .new from h)
  have hline := toLine_mem he
  rw [Edit.toLine, hside] at hline
  exact ⟨edit.content, hline⟩

end Hunk

/-! ## Files -/

namespace File

variable {file : File} {config : Config} {passes : Text → Bool}

/-- A file that does not pass through holds what is left of its hunks. -/
lemma files_sieve (hp : passes file.path = false) :
    (file.sieve config passes).files =
      file.withHunks
        (file.hunks.filterMap fun hunk => (hunk.sieve (hunk.findings config file.path)).hunk) := by
  simp [sieve, hp, sieved, List.filterMap_map, Function.comp_def]

lemma withHunks_eq_nil_iff {hunks : List Hunk} : file.withHunks hunks = [] ↔ hunks = [] := by
  cases hunks <;> simp [withHunks]

lemma files_sieve_eq_nil_iff (hn : ∀ hunk ∈ file.hunks, Numbered hunk.start hunk.lines)
    (hp : passes file.path = false) :
    (file.sieve config passes).files = [] ↔
      ∀ hunk ∈ file.hunks, hunk.survivors config file.path = [] := by
  rw [files_sieve hp, withHunks_eq_nil_iff, List.filterMap_eq_nil_iff]
  exact forall₂_congr fun hunk hh => Hunk.hunk_sieve_eq_none_iff (hn hunk hh)

/-- A file reports what is found in its hunks, unless it passes through. -/
lemma changes_sieve (config : Config) (passes : Text → Bool) (file : File) :
    (file.sieve config passes).changes =
      if passes file.path then []
      else file.hunks.flatMap fun hunk =>
        (hunk.findings config file.path).map (Change.ofFinding file.path) := by
  unfold sieve
  split
  · rfl
  · rw [sieved]
    simp only [List.flatMap_map]

end File

lemma changes_sieve (config : Config) (passes : Text → Bool) (files : List File) :
    (sieve config passes files).changes =
      files.flatMap fun file => (file.sieve config passes).changes := by
  simp only [sieve, List.flatMap_map]

lemma changes_sieve_eq_nil_iff {config : Config} {passes : Text → Bool} {files : List File} :
    (sieve config passes files).changes = [] ↔
      ∀ file ∈ files, passes file.path = false → ∀ hunk ∈ file.hunks,
        hunk.findings config file.path = [] := by
  rw [changes_sieve, List.flatMap_eq_nil_iff]
  refine forall₂_congr fun file _ => ?_
  rw [File.changes_sieve]
  cases passes file.path <;> simp [List.flatMap_eq_nil_iff]

/-- In a diff that was read, what no detector flags survives and nothing else does: a finding flags
only lines of its hunk, each sieved hunk keeps its unflagged changed lines as they are, it is
dropped if there are none, and a file is dropped if this leaves none of its hunks. -/
theorem survivors_are_the_unflagged_lines {text : Text} {files : List File}
    (h : readDiff text = .ok files) (config : Config) (passes : Text → Bool) :
    (sieve config passes files).files =
        files.flatMap (fun file => (file.sieve config passes).files) ∧
    ∀ file ∈ files, passes file.path = false →
      (file.sieve config passes).files =
        file.withHunks
          (file.hunks.filterMap fun hunk => (hunk.sieve (hunk.findings config file.path)).hunk) ∧
      ((file.sieve config passes).files = [] ↔
        ∀ hunk ∈ file.hunks, hunk.survivors config file.path = []) ∧
      ∀ hunk ∈ file.hunks,
        let found := hunk.findings config file.path
        (∀ n ∈ (Finding.flagged found).old, ∃ content, Line.removed content n ∈ hunk.lines) ∧
        (∀ n ∈ (Finding.flagged found).new, ∃ content, Line.added content n ∈ hunk.lines) ∧
        ((hunk.sieve found).hunk.elim [] fun left => changesOf left.lines) =
          unflagged (Finding.flagged found) hunk.lines ∧
        ((hunk.sieve found).hunk = none ↔ unflagged (Finding.flagged found) hunk.lines = []) := by
  have hnumbered : ∀ file ∈ files, ∀ hunk ∈ file.hunks, Numbered hunk.start hunk.lines := by
    intro file hf hunk hh
    exact (isCounted_of_readDiff h hf hh).numbered
  refine ⟨by simp [sieve, List.flatMap_map], ?_⟩
  intro file hf hp
  refine ⟨File.files_sieve hp, File.files_sieve_eq_nil_iff (hnumbered file hf) hp, ?_⟩
  intro hunk hh found
  have hn := hnumbered file hf hunk hh
  refine ⟨?_, ?_, ?_, ?_⟩
  · intro n hflagged
    exact Hunk.exists_removed_of_flagged hflagged
  · intro n hflagged
    exact Hunk.exists_added_of_flagged hflagged
  · exact Hunk.changesOf_sieve hn
  · exact Hunk.hunk_sieve_eq_none_iff hn

/-- The pair that differs in spaces and the comment lines are gone, the other two lines are left. -/
theorem survivors_of_sampleText :
    readDiff sampleText = .ok [sampleFile] ∧
    let found := sampleHunk.findings { whitespace := true, comment := true } sampleFile.path
    ((sampleHunk.sieve found).hunk.elim [] fun left => changesOf left.lines) =
      [.removed ['x'] 4, .added ['y'] 3] := by
  refine ⟨readDiff_sampleText, ?_⟩
  have hall := (survivors_are_the_unflagged_lines readDiff_sampleText
    { whitespace := true, comment := true } fun _ => false).2
  obtain ⟨-, -, hhunks⟩ := hall sampleFile (List.mem_singleton_self _) rfl
  obtain ⟨-, -, hleft, -⟩ := hhunks sampleHunk (List.mem_singleton_self _)
  refine hleft.trans ?_
  decide +kernel

end DiffSieve
