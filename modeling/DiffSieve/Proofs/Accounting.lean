import DiffSieve.Proofs.Joining
import Mathlib.Algebra.BigOperators.Group.List.Basic
import Mathlib.Algebra.Order.Field.Basic
import Mathlib.Algebra.Order.Field.Rat
import Mathlib.Data.List.Sort
import Mathlib.Data.List.TFAE
import Mathlib.Tactic.TFAE

/-!
# What was removed, what was reported and what is shown

A summary says how many changed lines a diff had and how many are left, the reports say which lines
were flagged, and the text shows what is left.  The three are computed apart, and here it is shown
that they agree.

In a numbered hunk the numbers flagged in a version are those of its flagged lines, one number for
each line (`Hunk.toList_flagged`).  So a line that several categories flag counts once, and the
changed lines of a hunk are the survivors and as many others as are reported
(`Hunk.length_changesOf`).  The sum over all hunks is the balance of a diff (`changedCount_sieve`).

That something was removed can also be told from the text.  A changed line is shown by a line that
opens with a plus or a minus, the header of a hunk by none, and the header of a file by the same
ones before and after; so these lines become fewer by what was removed (`countP_isMarked_sieve`).
-/

namespace DiffSieve

/-! ## Reports -/

/-- How many numbers a set has. -/
def NumberSet.size (numbers : NumberSet) : Nat :=
  numbers.toList.length

namespace Change

/-- The numbers of a version that any of some reports flags. -/
def flaggedIn (side : Side) (changes : List Change) : NumberSet :=
  changes.foldr (fun change numbers => (change.flagged.at side).union numbers) .empty

/-- How many lines some reports on a hunk flag, where a line that several of them flag counts
once. -/
def lineCount (changes : List Change) : Nat :=
  (flaggedIn .old changes).size + (flaggedIn .new changes).size

end Change

/-- The reports on a hunk of the file at a path. -/
def Hunk.reports (config : Config) (path : Text) (hunk : Hunk) : List Change :=
  (hunk.findings config path).map (Change.ofFinding path)

/-- The reports on each hunk of a file; there are none if the file passes through. -/
def File.reports (config : Config) (passes : Text → Bool) (file : File) : List (List Change) :=
  if passes file.path then [] else file.hunks.map (Hunk.reports config file.path)

lemma changes_sieve_eq_reports (config : Config) (passes : Text → Bool) (files : List File) :
    (sieve config passes files).changes =
      files.flatMap fun file => (file.reports config passes).flatten := by
  rw [changes_sieve]
  apply List.flatMap_congr
  intro file _
  rw [File.changes_sieve, File.reports]
  split
  · rfl
  · rfl

/-! ## Hunks -/

namespace Hunk

variable {hunk : Hunk} {config : Config} {path : Text}

lemma flaggedIn_reports (config : Config) (path : Text) (hunk : Hunk) (side : Side) :
    Change.flaggedIn side (hunk.reports config path) =
      (Finding.flagged (hunk.findings config path)).at side := by
  cases side <;>
    simp only [Change.flaggedIn, reports, Finding.flagged, Flags.unite, List.foldr_map, Sides.at,
      Change.ofFinding]

/-- The edits of a hunk in the file at a path that a finding flags. -/
def reportedEdits (config : Config) (path : Text) (hunk : Hunk) : List Edit :=
  (edits hunk.lines).filter (Flags.holds (Finding.flagged (hunk.findings config path)))

/-- In a numbered hunk the numbers flagged in a version are those of its flagged lines. -/
lemma toList_flagged (hn : Numbered hunk.start hunk.lines) (side : Side) :
    ((Finding.flagged (hunk.findings config path)).at side).toList =
      ((hunk.reportedEdits config path).filter (·.side = side)).map Edit.number := by
  have hascending : (((hunk.reportedEdits config path).filter (·.side = side)).map
      Edit.number).Pairwise (· < ·) := by
    have hnumbers := ((pairwise_number_editsFrom 0 hn).filter
      (Flags.holds (Finding.flagged (hunk.findings config path)))).filter (·.side = side)
    refine List.pairwise_map.2 (hnumbers.imp_of_mem ?_)
    intro first second hf hs hlt
    have hfirst : first.side = side := by simpa using (List.mem_filter.1 hf).2
    have hsecond : second.side = side := by simpa using (List.mem_filter.1 hs).2
    exact hlt (hfirst.trans hsecond.symm)
  refine (NumberSet.ascending _).eq_of_mem_iff hascending fun n => ?_
  rw [List.mem_map]
  constructor
  · intro hflagged
    obtain ⟨edit, he, rfl, rfl⟩ := exists_edit_of_flagged hflagged
    have hmem : edit ∈ hunk.reportedEdits config path :=
      List.mem_filter.2 ⟨he, Flags.holds_iff.2 hflagged⟩
    exact ⟨edit, List.mem_filter.2 ⟨hmem, decide_eq_true rfl⟩, rfl⟩
  · rintro ⟨edit, hmem, rfl⟩
    obtain ⟨hmem, hside⟩ := List.mem_filter.1 hmem
    have hholds := Flags.holds_iff.1 (List.mem_filter.1 hmem).2
    rwa [of_decide_eq_true hside] at hholds

/-- The reports on a hunk flag as many numbers as there are flagged lines. -/
lemma lineCount_reports (hn : Numbered hunk.start hunk.lines) :
    Change.lineCount (hunk.reports config path) = (hunk.reportedEdits config path).length := by
  have hsize : ∀ side, (Change.flaggedIn side (hunk.reports config path)).size =
      (hunk.reportedEdits config path).countP (·.side = side) := by
    intro side
    rw [NumberSet.size, flaggedIn_reports, toList_flagged hn, List.length_map,
      List.countP_eq_length_filter]
  have hother : ∀ edit : Edit, (edit.side = .new) = ¬ edit.side = .old := by
    intro edit
    cases edit.side <;> simp
  rw [Change.lineCount, hsize, hsize, List.length_eq_countP_add_countP (·.side = .old)]
  simp only [hother, decide_eq_true_eq]

/-- The changed lines of a hunk are the survivors and as many others as are reported. -/
lemma length_changesOf (hn : Numbered hunk.start hunk.lines) (config : Config) (path : Text) :
    (changesOf hunk.lines).length =
      (hunk.survivors config path).length + Change.lineCount (hunk.reports config path) := by
  have hsurvivors : hunk.survivors config path =
      ((edits hunk.lines).filter fun edit =>
        !Flags.holds (Finding.flagged (hunk.findings config path)) edit).map Edit.toLine := by
    rw [← unflagged_map_toLine, map_toLine_edits, survivors, unflagged, unflagged,
      List.filter_filter]
    apply List.filter_congr
    intro line _
    cases line.isContext <;> simp
  rw [changesOf, ← map_toLine_edits, hsurvivors, List.length_map, List.length_map,
    lineCount_reports hn, reportedEdits, ← List.countP_eq_length_filter,
    ← List.countP_eq_length_filter, Nat.add_comm,
    List.length_eq_countP_add_countP (Flags.holds (Finding.flagged (hunk.findings config path)))]
  simp

/-- If the reports on a hunk flag no line, then there are none. -/
lemma findings_eq_nil_of_lineCount (h : Change.lineCount (hunk.reports config path) = 0) :
    hunk.findings config path = [] := by
  refine List.eq_nil_iff_forall_not_mem.2 fun finding hf => ?_
  have hnone : ∀ side, (finding.detection.flagged.at side).toList = [] := by
    intro side
    refine List.eq_nil_iff_forall_not_mem.2 fun n hn => ?_
    have hmem : n ∈ Change.flaggedIn side (hunk.reports config path) := by
      rw [flaggedIn_reports]
      exact Flags.mem_unite.2 ⟨_, List.mem_map_of_mem hf, hn⟩
    have hpos : 0 < (Change.flaggedIn side (hunk.reports config path)).size :=
      List.length_pos_of_mem hmem
    rw [Change.lineCount] at h
    cases side with
    | old => omega
    | new => omega
  have hold : finding.detection.flagged.old.toList = [] := hnone .old
  have hnew : finding.detection.flagged.new.toList = [] := hnone .new
  have hnonempty := (mem_findings.1 hf).2.2
  rw [Detection.isNonempty, NumberSet.isEmpty, NumberSet.isEmpty, hold, hnew] at hnonempty
  contradiction

/-- A hunk is reported as changed exactly if something was found in it. -/
lemma changed_sieve (hn : Numbered hunk.start hunk.lines) :
    (hunk.sieve (hunk.findings config path)).changed = !(hunk.reports config path).isEmpty := by
  by_cases hnil : hunk.findings config path = []
  · rw [hnil, sieve_nil, reports, hnil]
    rfl
  · have hchanged : (hunk.sieve (hunk.findings config path)).changed = true := by
      by_contra hsame
      have hself := (Flags.stripLines_eq_self_iff (hunk.flags (hunk.findings config path))
        hunk.lines).2 (by simpa [sieve, strip] using hsame)
      have hlength := length_changesOf hn config path
      rw [← changesOf_stripLines hn, hself] at hlength
      exact hnil (findings_eq_nil_of_lineCount (by omega))
    simp [hchanged, reports, hnil]

end Hunk

/-! ## Files -/

namespace File

variable {file : File} {config : Config} {passes : Text → Bool}

lemma withHunks_cons (file : File) (hunk : Hunk) (rest : List Hunk) :
    file.withHunks (hunk :: rest) = [{ file with hunks := hunk :: rest }] := rfl

lemma changedCount_singleton (file : File) :
    changedCount [file] = (file.hunks.flatMap fun hunk => changesOf hunk.lines).length := by
  rw [changedCount, allLines, List.flatMap_singleton, List.countP_eq_length_filter,
    List.filter_flatMap]
  rfl

lemma changedCount_withHunks (file : File) (hunks : List Hunk) :
    changedCount (file.withHunks hunks) = (hunks.flatMap fun hunk => changesOf hunk.lines).length :=
    by
  cases hunks with
  | nil => rfl
  | cons hunk rest => exact changedCount_singleton _

/-- Hunks without a change do not count. -/
lemma flatMap_changesOf_filter (hunks : List Hunk) :
    ((hunks.filter Hunk.hasChanges).flatMap fun hunk => changesOf hunk.lines) =
      hunks.flatMap fun hunk => changesOf hunk.lines := by
  induction hunks with
  | nil => rfl
  | cons hunk rest ih =>
    by_cases hc : hunk.hasChanges = true
    · rw [List.filter_cons_of_pos hc, List.flatMap_cons, List.flatMap_cons, ih]
    · have hnil : changesOf hunk.lines = [] := by simpa [Hunk.hasChanges, changesOf] using hc
      rw [List.filter_cons_of_neg hc, List.flatMap_cons, hnil, ih, List.nil_append]

/-- The changed lines of a file are those that are left of it and as many others as are
reported. -/
lemma changedCount_sieve (hn : ∀ hunk ∈ file.hunks, Numbered hunk.start hunk.lines) :
    changedCount [file] = changedCount (file.sieve config passes).files +
      ((file.reports config passes).map Change.lineCount).sum := by
  rw [files_sieve_eq, changedCount_withHunks, leftHunks, flatMap_changesOf_filter,
    changedCount_singleton, List.flatMap_map, List.length_flatMap, List.length_flatMap, reports]
  by_cases hp : passes file.path = true
  · simp [hp, Hunk.leftLines, Hunk.withLines]
  · have hleft : ∀ hunk ∈ file.hunks, (changesOf hunk.lines).length =
        (changesOf (hunk.withLines (hunk.leftLines config passes file.path)).lines).length +
          Change.lineCount (hunk.reports config file.path) := by
      intro hunk hh
      rw [Hunk.length_changesOf (hn hunk hh) config file.path, Hunk.withLines, Hunk.leftLines,
        if_neg hp, Hunk.changesOf_stripLines (hn hunk hh)]
    rw [if_neg hp, List.map_map, List.map_congr_left hleft, List.sum_map_add]
    rfl

/-- A file is named as changed exactly if there is a report on one of its hunks. -/
lemma paths_sieve (hn : ∀ hunk ∈ file.hunks, Numbered hunk.start hunk.lines) :
    (file.sieve config passes).paths =
      if (file.reports config passes).any (!·.isEmpty) then [file.path] else [] := by
  rw [sieve, reports]
  split
  · rfl
  · have hany : (file.hunks.map fun hunk =>
        hunk.sieve (hunk.findings config file.path)).any Stripped.changed =
          (file.hunks.map (Hunk.reports config file.path)).any (!·.isEmpty) := by
      rw [List.any_map, List.any_map, Bool.eq_iff_iff, List.any_eq_true, List.any_eq_true]
      refine exists_congr fun hunk => and_congr_right fun hh => ?_
      rw [Function.comp_apply, Hunk.changed_sieve (hn hunk hh)]
      rfl
    rw [← hany, sieved]
    simp only [List.map_map]
    rfl

end File

/-! ## Lines with a mark -/

/-- Whether a line of text opens with the mark of a changed line. -/
def isMarked : Text → Bool
  | '+' :: _ | '-' :: _ => true
  | _ => false

lemma Hunk.countP_isMarked_render (hunk : Hunk) :
    hunk.render.countP isMarked = (changesOf hunk.lines).length := by
  have hheader : ¬ isMarked hunk.renderHeader = true := by
    rw [renderHeader_eq]
    exact Bool.false_ne_true
  have hline : ∀ line : Line, isMarked line.render = !line.isContext := by
    intro line
    cases line <;> rfl
  rw [render, List.countP_cons_of_neg hheader, List.countP_map, changesOf,
    ← List.countP_eq_length_filter]
  exact List.countP_congr fun line _ => by rw [Function.comp_apply, hline]

namespace File

variable {file : File} {config : Config} {passes : Text → Bool}

lemma hasChanges_iff (file : File) : file.hasChanges = true ↔ changedCount [file] ≠ 0 := by
  rw [changedCount_singleton, Ne, List.length_eq_zero_iff, List.flatMap_eq_nil_iff]
  simp [hasChanges, Hunk.hasChanges, changesOf]

/-- A file that is shown has the marked lines of its header and one for each changed line. -/
lemma countP_isMarked_render (file : File) :
    file.render.countP isMarked =
      (if changedCount [file] = 0 then 0 else file.renderHeader.countP isMarked) +
        changedCount [file] := by
  by_cases hc : file.hasChanges = true
  · have hhunks : ∀ hunks : List Hunk, (hunks.flatMap Hunk.render).countP isMarked =
        (hunks.flatMap fun hunk => changesOf hunk.lines).length := by
      intro hunks
      rw [List.countP_flatMap, List.length_flatMap]
      simp only [Function.comp_def, Hunk.countP_isMarked_render]
    rw [render_of_hasChanges hc, if_neg (file.hasChanges_iff.1 hc), List.countP_append, hhunks,
      flatMap_changesOf_filter, changedCount_singleton]
  · have hzero : changedCount [file] = 0 := by
      by_contra hne
      exact hc (file.hasChanges_iff.2 hne)
    rw [render_of_not_hasChanges hc, hzero]
    rfl

/-- The marked lines of a file become fewer at least by the lines that are reported. -/
lemma countP_isMarked_sieve (hn : ∀ hunk ∈ file.hunks, Numbered hunk.start hunk.lines) :
    ((file.sieve config passes).files.flatMap render).countP isMarked +
      ((file.reports config passes).map Change.lineCount).sum ≤ file.render.countP isMarked := by
  have hbalance : _ = changedCount (file.sieve config passes).files + _ := changedCount_sieve hn
  rw [files_sieve_eq] at hbalance ⊢
  rw [countP_isMarked_render]
  generalize file.leftHunks config passes = hunks at hbalance ⊢
  cases hunks with
  | nil =>
    rw [withHunks, List.flatMap_nil, List.countP_nil]
    omega
  | cons hunk rest =>
    have hheader : { file with hunks := hunk :: rest }.renderHeader = file.renderHeader := rfl
    rw [withHunks_cons] at hbalance
    rw [withHunks_cons, List.flatMap_singleton, countP_isMarked_render, hheader]
    split_ifs <;> omega

/-- What is left of a file in which nothing was found is shown as the file was. -/
lemma flatMap_render_passed (file : File) : file.passed.files.flatMap render = file.render := by
  have hall : ((file.hunks.filter Hunk.hasChanges).map Hunk.recounted).filter Hunk.hasChanges =
      (file.hunks.filter Hunk.hasChanges).map Hunk.recounted := by
    rw [List.filter_map]
    congr 1
    exact List.filter_eq_self.2 fun hunk hh => (List.mem_filter.1 hh).2
  have hshown : ((file.hunks.filter Hunk.hasChanges).map Hunk.recounted).flatMap Hunk.render =
      (file.hunks.filter Hunk.hasChanges).flatMap Hunk.render := by
    rw [List.flatMap_map]
    rfl
  rw [passed, render]
  cases hhunks : file.hunks.filter Hunk.hasChanges with
  | nil => rfl
  | cons hunk rest =>
    rw [hhunks] at hall hshown
    rw [List.map_cons, withHunks_cons, List.flatMap_singleton, ← List.map_cons,
      render_of_hasChanges, hall]
    · exact congrArg (file.renderHeader ++ ·) hshown
    · have hunkChanges : hunk.hasChanges = true :=
        (List.mem_filter.1 (hhunks ▸ List.mem_cons_self : hunk ∈ _)).2
      exact List.any_eq_true.2 ⟨hunk.recounted, List.mem_cons_self, hunkChanges⟩

end File

/-! ## The whole diff -/

section

variable {config : Config} {passes : Text → Bool} {files : List File}

lemma files_sieve_cons (config : Config) (passes : Text → Bool) (file : File)
    (rest : List File) :
    (sieve config passes (file :: rest)).files =
      (file.sieve config passes).files ++ (sieve config passes rest).files := rfl

/-- The changed lines of a diff are those that are left and as many others as are reported. -/
lemma changedCount_sieve
    (hn : ∀ file ∈ files, ∀ hunk ∈ file.hunks, Numbered hunk.start hunk.lines) :
    changedCount files = changedCount (sieve config passes files).files +
      ((files.flatMap (File.reports config passes)).map Change.lineCount).sum := by
  induction files with
  | nil => rfl
  | cons file rest ih =>
    have hfile : _ = changedCount (file.sieve config passes).files + _ :=
      File.changedCount_sieve (hn file List.mem_cons_self)
    have hrest := ih fun other ho => hn other (List.mem_cons_of_mem _ ho)
    have hsplit : changedCount (file :: rest) = changedCount [file] + changedCount rest :=
      changedCount_append [file] rest
    rw [hsplit, files_sieve_cons, changedCount_append, List.flatMap_cons, List.map_append,
      List.sum_append]
    omega

/-- The marked lines of a diff become fewer at least by the lines that are reported. -/
lemma countP_isMarked_sieve
    (hn : ∀ file ∈ files, ∀ hunk ∈ file.hunks, Numbered hunk.start hunk.lines) :
    ((sieve config passes files).files.flatMap File.render).countP isMarked +
      ((files.flatMap (File.reports config passes)).map Change.lineCount).sum ≤
        (files.flatMap File.render).countP isMarked := by
  induction files with
  | nil => exact Nat.le_refl _
  | cons file rest ih =>
    have hfile : List.countP _ ((file.sieve config passes).files.flatMap _) + _ ≤ _ :=
      File.countP_isMarked_sieve (hn file List.mem_cons_self)
    have hrest := ih fun other ho => hn other (List.mem_cons_of_mem _ ho)
    rw [files_sieve_cons, List.flatMap_append, List.flatMap_cons, List.flatMap_cons,
      List.countP_append, List.countP_append, List.map_append, List.sum_append]
    omega

lemma paths_sieve (hn : ∀ file ∈ files, ∀ hunk ∈ file.hunks, Numbered hunk.start hunk.lines) :
    (sieve config passes files).paths =
      (files.filter fun file => (file.reports config passes).any (!·.isEmpty)).map File.path := by
  induction files with
  | nil => rfl
  | cons file rest ih =>
    have hstep : (sieve config passes (file :: rest)).paths =
        (file.sieve config passes).paths ++ (sieve config passes rest).paths := rfl
    rw [hstep, File.paths_sieve (hn file List.mem_cons_self),
      ih fun other ho => hn other (List.mem_cons_of_mem _ ho), List.filter_cons]
    split
    · rfl
    · rfl

/-- Without a report the diff is shown as it was. -/
lemma renderDiff_sieve_of_silent (h : (sieve config passes files).changes = []) :
    renderDiff (sieve config passes files).files = renderDiff files := by
  have hfile : ∀ file ∈ files,
      (file.sieve config passes).files.flatMap File.render = file.render := by
    intro file hf
    rw [← File.flatMap_render_passed, File.sieve]
    split
    · rfl
    · next hp =>
      rw [File.sieved_eq_passed (changes_sieve_eq_nil_iff.1 h file hf (by simpa using hp))]
  have hfiles : (sieve config passes files).files.flatMap File.render =
      files.flatMap fun file => (file.sieve config passes).files.flatMap File.render := by
    rw [sieve, List.flatMap_map, List.flatMap_assoc]
  rw [renderDiff, hfiles, List.flatMap_congr hfile, renderDiff]

/-- If no line is reported, then there is no report. -/
lemma changes_sieve_eq_nil_of_sum
    (h : ((files.flatMap (File.reports config passes)).map Change.lineCount).sum = 0) :
    (sieve config passes files).changes = [] := by
  rw [changes_sieve_eq_nil_iff]
  intro file hf hp hunk hh
  apply Hunk.findings_eq_nil_of_lineCount
  refine List.sum_eq_zero_iff_forall_eq_nat.1 h _ (List.mem_map_of_mem ?_)
  refine List.mem_flatMap.2 ⟨file, hf, ?_⟩
  rw [File.reports, if_neg (by simpa using hp)]
  exact List.mem_map_of_mem hh

end

/-- Diffs that show the same text show the same lines. -/
lemma flatMap_render_eq_of_renderDiff {first second : List File}
    (hf : ∀ file ∈ first, file.Writable) (hs : ∀ file ∈ second, file.Writable)
    (h : renderDiff first = renderDiff second) :
    first.flatMap File.render = second.flatMap File.render := by
  have hpieces := congrArg (List.splitOn '\n') h
  rw [renderDiff, renderDiff, Text.splitOn_terminated (not_mem_of_mem_render hf),
    Text.splitOn_terminated (not_mem_of_mem_render hs)] at hpieces
  exact List.append_cancel_right hpieces

/-- A percentage before it is rounded; zero for a part of nothing. -/
def Number.Share.exact (share : Number.Share) : ℚ :=
  if share.whole = 0 then 0 else share.part / share.whole * 100

lemma Number.Share.exact_mem (share : Number.Share) (hpart : 0 ≤ share.part)
    (hwhole : share.part ≤ share.whole) : 0 ≤ share.exact ∧ share.exact ≤ 100 := by
  rw [exact]
  split
  · exact ⟨le_refl 0, by norm_num⟩
  · next hne =>
    have hpos : (0 : ℚ) < share.whole := Nat.cast_pos.2 (Nat.pos_of_ne_zero hne)
    have hshare : (share.part : ℚ) / share.whole ≤ 1 := by
      rw [div_le_one hpos]
      exact_mod_cast hwhole
    have hnonneg : 0 ≤ (share.part : ℚ) / share.whole :=
      div_nonneg (Int.cast_nonneg hpart) hpos.le
    exact ⟨mul_nonneg hnonneg (by norm_num), mul_le_of_le_one_left (by norm_num) hshare⟩

/-- A diff that can be read can be cleaned, and its summary accounts for the reports.  As many lines
are removed as the reports on its hunks flag, a line that several reports on a hunk flag counted
once.  A file is named as changed exactly if there is a report on one of its hunks.  The lines
removed are some of the changed lines, and these some of all lines, so that the share of lines
removed is a percentage.  And there are no reports exactly if no line is removed, and exactly if the
text of what is left is the text of what was read. -/
theorem summary_accounts_for_the_reports {text : Text} {files : List File}
    (h : readDiff text = .ok files) (config : Config) (passes : Text → Bool) :
    ∃ cleaned, clean config passes text = .ok cleaned ∧ cleaned.source = files ∧
      let summary := cleaned.statistics
      cleaned.sieved.changes = files.flatMap (fun file => (file.reports config passes).flatten) ∧
      summary.linesRemoved =
        ((files.flatMap (File.reports config passes)).map Change.lineCount).sum ∧
      cleaned.sieved.paths =
        (files.filter fun file => (file.reports config passes).any (!·.isEmpty)).map File.path ∧
      0 ≤ summary.linesRemoved ∧ summary.linesRemoved ≤ changedCount files ∧
      changedCount files ≤ summary.lines ∧
      0 ≤ summary.reduction.exact ∧ summary.reduction.exact ≤ 100 ∧
      [cleaned.sieved.changes = [], summary.linesRemoved = 0,
        cleaned.text = renderDiff files].TFAE := by
  refine ⟨⟨files, sieve config passes files⟩, clean_eq_ok_iff.2 ⟨h, rfl⟩, rfl, ?_⟩
  intro summary
  have hn : ∀ file ∈ files, ∀ hunk ∈ file.hunks, Numbered hunk.start hunk.lines :=
    fun file hf hunk hh => (isCounted_of_readDiff h hf hh).numbered
  have hbalance : changedCount files = changedCount (sieve config passes files).files + _ :=
    changedCount_sieve hn
  have hremoved : summary.linesRemoved =
      ((files.flatMap (File.reports config passes)).map Change.lineCount).sum := by
    show (changedCount files - changedCount (sieve config passes files).files : Int) = _
    omega
  have hnonneg : 0 ≤ summary.linesRemoved := by omega
  have hchanged : summary.linesRemoved ≤ changedCount files := by omega
  have hlines : changedCount files ≤ summary.lines := List.countP_le_length
  have hpercentage := summary.reduction.exact_mem hnonneg
    (show summary.linesRemoved ≤ summary.lines by omega)
  refine ⟨changes_sieve_eq_reports config passes files, hremoved, paths_sieve hn, hnonneg, hchanged,
    hlines, hpercentage.1, hpercentage.2, ?_⟩
  tfae_have 1 → 3 := renderDiff_sieve_of_silent
  tfae_have 3 → 2 := by
    intro htext
    have hwritable := writable_of_readDiff h
    have hshown := flatMap_render_eq_of_renderDiff (writable_sieve hwritable) hwritable htext
    have hmarked : List.countP _ ((sieve config passes files).files.flatMap _) + _ ≤ _ :=
      countP_isMarked_sieve hn
    rw [hshown] at hmarked
    omega
  tfae_have 2 → 1 := by
    intro hzero
    exact changes_sieve_eq_nil_of_sum (by omega)
  tfae_finish

/-- Of the seven lines of the sample the pair that differs in spaces and the two comment lines are
removed, so the text is another one. -/
theorem accounts_of_sampleText :
    let config : Config := { whitespace := true, comment := true }
    readDiff sampleText = .ok [sampleFile] ∧
    ∃ cleaned, clean config (fun _ => false) sampleText = .ok cleaned ∧
      cleaned.statistics.linesRemoved = 4 ∧ cleaned.sieved.paths = ["x.ts".toList] ∧
      cleaned.text ≠ renderDiff [sampleFile] := by
  intro config
  obtain ⟨cleaned, hclean, -, -, hremoved, hpaths, -, -, -, -, -, hsilent⟩ :=
    summary_accounts_for_the_reports readDiff_sampleText config fun _ => false
  have hfour : cleaned.statistics.linesRemoved = 4 := by
    rw [hremoved]
    decide +kernel
  refine ⟨readDiff_sampleText, cleaned, hclean, hfour, ?_, ?_⟩
  · rw [hpaths]
    decide +kernel
  · intro htext
    have hzero : cleaned.statistics.linesRemoved = 0 := (hsilent.out 2 1).1 htext
    omega

end DiffSieve
