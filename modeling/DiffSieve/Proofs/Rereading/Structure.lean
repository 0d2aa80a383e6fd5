import DiffSieve.Proofs.Rereading.Diff

/-!
# What a rendered diff keeps

The text of a diff shows the files that have a change, and in them the hunks that have one.  Read
back, each of them announces the lines it holds, whatever its counts and its header line said
before: the hunks of a file may have lost lines, or gained some, since they were read.  Starts,
the trimmed heading, and the kind and content of every line are kept; of a carriage return at the
end of a content one is lost, since it reads as part of the line end.
-/

namespace DiffSieve

/-! ## A hunk and a file beside what they are read as -/

/-- Whether `back` announces what it holds, and holds what is shown of `hunk`. -/
structure Hunk.ReadsAs (hunk back : Hunk) : Prop where
  isConsistent : back.isConsistent = true
  start : back.start = hunk.start
  heading : back.heading = Text.trim hunk.heading
  lines : back.lines.map (fun line => (line.mark, line.content)) =
    hunk.lines.map fun line => (line.mark, Text.dropFinal '\r' line.content)

/-- Whether `back` has the kind of `file`, as far as a header shows it, and its hunks with a change,
one by one. -/
structure File.ReadsAs (file back : File) : Prop where
  kind : back.kind = file.kind.known
  hunks : List.Forall₂ Hunk.ReadsAs (file.hunks.filter Hunk.hasChanges) back.hunks

lemma Hunk.readsAs_reread (hunk : Hunk) : hunk.ReadsAs hunk.reread where
  isConsistent := by
    have htally : hunk.reread.tally = hunk.tally := by
      rw [tally, reread, tally_renumber, Line.tally_map_chomped, tally]
    exact decide_eq_true htally
  start := rfl
  heading := rfl
  lines := by
    show (renumber hunk.start (hunk.lines.map Line.chomped)).map _ = _
    rw [map_renumber, List.map_map]
    apply List.map_congr_left
    intro line _
    show (line.chomped.mark, line.chomped.content) = _
    rw [Line.mark_chomped, Line.content_chomped]

lemma File.readsAs_reread (file : File) : file.ReadsAs file.reread where
  kind := file.kind_headerReread
  hunks := by
    rw [reread, List.forall₂_map_right_iff, List.forall₂_same]
    intro hunk _
    exact hunk.readsAs_reread

/-! ## The whole diff -/

/-- Whatever the files of a diff have been through, its text is read as the files that have a
change, in order, and in each as the hunks that have one, in order; and each of these announces the
lines it holds.  Only a hunk with a count of more digits than are converted stands against it. -/
theorem rendered_diff_keeps_structure {files : List File} (h : ∀ file ∈ files, file.Writable) :
    (∃ parsed, readDiff (renderDiff files) = .ok parsed ∧
      List.Forall₂ File.ReadsAs (files.filter File.hasChanges) parsed) ↔ CountsReadable files := by
  constructor
  · rintro ⟨parsed, hread, -⟩
    exact ((readDiff_renderDiff_eq_ok_iff h).1 hread).2
  · intro hcounts
    refine ⟨(files.filter File.hasChanges).map File.reread,
      (readDiff_renderDiff_eq_ok_iff h).2 ⟨rfl, hcounts⟩, ?_⟩
    rw [List.forall₂_map_right_iff, List.forall₂_same]
    intro file _
    exact file.readsAs_reread

/-- A file of a kind without rules, with a hunk whose header is stale and one without a change. -/
def editedFile : File :=
  { sampleFile with
    kind := .other "copy".toList
    hunks :=
      [{ sampleHunk with
          heading := " f()".toList
          lines := [.removed "x\r".toList 1, .added ['y'] 1, .added "@@ -1 +1 @@".toList 1] },
        { sampleHunk with lines := [.context ['c'] 2 2] }] }

/-- The text of the sample and of the edited file is read as two files with one hunk each. -/
theorem structure_of_editedFile :
    ∃ parsed, readDiff (renderDiff [sampleFile, editedFile]) = .ok parsed ∧
      List.Forall₂ File.ReadsAs [sampleFile, editedFile] parsed := by
  have hwritable : ∀ file ∈ [sampleFile, editedFile], file.Writable := by
    decide +kernel
  have hcounts : CountsReadable [sampleFile, editedFile] := by
    refine countsReadable_of_length_lt ?_
    decide +kernel
  exact (rendered_diff_keeps_structure hwritable).2 hcounts

end DiffSieve
