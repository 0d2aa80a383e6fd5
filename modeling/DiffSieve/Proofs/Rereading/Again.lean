import DiffSieve.Proofs.Quiet
import DiffSieve.Proofs.Rereading.Cleaned

/-!
# Cleaning a cleaned diff

A cleaned diff is read as the files that are left, so a second cleaning sieves these files, reread.
When a line was taken out of a block, the lines after it have moved up and are paired anew: the rest
may hold pairs that were never compared, as in `blankLineText`, and the second cleaning finds what
the first one did not.

It does not happen if no block was flagged in part and the files left are read back as they are
(`changes_again_eq_nil_of_flaggedByBlocks`).
-/

namespace DiffSieve

open Detection

/-! ## The second cleaning -/

section

variable {config : Config} {passes : Text → Bool} {text : Text} {cleaned again : Cleaned}

lemma clean_text_eq_ok_iff (h : clean config passes text = .ok cleaned) :
    clean config passes cleaned.text = .ok again ↔
      again.source = cleaned.sieved.files.map File.reread ∧
        again.sieved = sieve config passes again.source ∧ CountsReadable cleaned.sieved.files := by
  rw [clean_eq_ok_iff, readDiff_text_eq_ok_iff h]
  constructor
  · rintro ⟨⟨hsource, hcounts⟩, hsieved⟩
    exact ⟨hsource, hsieved, hcounts⟩
  · rintro ⟨hsource, hsieved, hcounts⟩
    exact ⟨⟨hsource, hcounts⟩, hsieved⟩

/-- The second cleaning reports nothing exactly if no category that is to be removed flags a line of
what was left, read back. -/
lemma changes_again_eq_nil_iff (h : clean config passes text = .ok cleaned)
    (ha : clean config passes cleaned.text = .ok again) :
    again.sieved.changes = [] ↔
      ∀ left ∈ cleaned.sieved.files, passes left.reread.path = false →
        ∀ hunk ∈ left.hunks, ∀ c, config.ignores c = true →
          flaggedEdits (Dialect.ofPath left.reread.path) hunk.reread.lines c = [] := by
  obtain ⟨hsource, hsieved, -⟩ := (clean_text_eq_ok_iff h).1 ha
  rw [hsieved, hsource, changes_sieve_eq_nil_iff, List.forall_mem_map]
  refine forall₂_congr fun left hleft => imp_congr_right fun _ => ?_
  rw [(clean_eq_ok_iff.1 h).2] at hleft
  have hhunks : left.reread.hunks = left.hunks.map Hunk.reread := by
    rw [File.reread, (hasChanges_sieve hleft).2]
  rw [hhunks, List.forall_mem_map]
  exact forall₂_congr fun hunk _ => Hunk.findings_eq_nil_iff

/-- Whether what is left of a file is read back under its path, and no line of it loses a carriage
return. -/
structure File.ReadsBack (left : File) : Prop where
  path : left.reread.path = left.path
  ends : ∀ hunk ∈ left.hunks, ∀ line ∈ hunk.lines,
    Text.dropFinal '\r' line.content = line.content

/-- The second cleaning reports nothing if no block was flagged in part and the files left are read
back as they are. -/
lemma changes_again_eq_nil_of_flaggedByBlocks (h : clean config passes text = .ok cleaned)
    (ha : clean config passes cleaned.text = .ok again)
    (hback : ∀ left ∈ cleaned.sieved.files, left.ReadsBack)
    (hwhole : ∀ file ∈ cleaned.source, passes file.path = false → ∀ hunk ∈ file.hunks,
      hunk.FlaggedByBlocks config file.path) :
    again.sieved.changes = [] := by
  obtain ⟨hread, hsieved⟩ := clean_eq_ok_iff.1 h
  rw [changes_again_eq_nil_iff h ha]
  intro left hleft hpasses hunk hh c hc
  have hpath := (hback left hleft).path
  have hends := (hback left hleft).ends hunk hh
  rw [hsieved] at hleft
  obtain ⟨file, hf, rfl, -⟩ := mem_files_of_sieve hleft
  obtain ⟨original, ho, rfl⟩ := List.mem_map.1 (List.mem_filter.1 hh).1
  rw [hpath] at hpasses ⊢
  have hn := (isCounted_of_readDiff hread hf ho).numbered
  refine Hunk.flaggedEdits_eq_nil_of_stripped hn (hwhole file hf hpasses original ho) ?_ hc
  rw [(Hunk.readsAs_reread _).lines]
  have hlines : (original.withLines (original.leftLines config passes file.path)).lines =
      (original.flags (original.findings config file.path)).stripLines original.lines := by
    show original.leftLines config passes file.path = _
    rw [Hunk.leftLines, if_neg (by simpa using hpasses)]
  rw [← hlines]
  apply List.map_congr_left
  intro line hline
  rw [hends line hline]

end

/-- A cleaned diff can be cleaned again, unless it shows a count of more digits than are converted.
The second cleaning finds what the detectors flag in the lines left, which it pairs anew; so it
reports nothing exactly if they flag nothing there, and it never reports anything if no block was
flagged in part and the files left are read back as they are. -/
theorem cleaning_again_reports_what_is_flagged_in_the_rest {config : Config} {passes : Text → Bool}
    {text : Text} {cleaned : Cleaned} (h : clean config passes text = .ok cleaned) :
    ((∃ again, clean config passes cleaned.text = .ok again) ↔
      CountsReadable cleaned.sieved.files) ∧
    ∀ again, clean config passes cleaned.text = .ok again →
      (again.sieved.changes = [] ↔
        ∀ left ∈ cleaned.sieved.files, passes left.reread.path = false →
          ∀ hunk ∈ left.hunks, ∀ c, config.ignores c = true →
            flaggedEdits (Dialect.ofPath left.reread.path) hunk.reread.lines c = []) ∧
      ((∀ left ∈ cleaned.sieved.files, left.ReadsBack) →
        (∀ file ∈ cleaned.source, passes file.path = false → ∀ hunk ∈ file.hunks,
          hunk.FlaggedByBlocks config file.path) →
        again.sieved.changes = []) := by
  refine ⟨⟨?_, ?_⟩, ?_⟩
  · rintro ⟨again, ha⟩
    exact ((clean_text_eq_ok_iff h).1 ha).2.2
  · intro hcounts
    let source := cleaned.sieved.files.map File.reread
    exact ⟨⟨source, sieve config passes source⟩, (clean_text_eq_ok_iff h).2 ⟨rfl, rfl, hcounts⟩⟩
  · intro again ha
    exact ⟨changes_again_eq_nil_iff h ha, changes_again_eq_nil_of_flaggedByBlocks h ha⟩

/-- Without the blank line the two lines that differ in spaces come to stand side by side, and the
second cleaning reports them. -/
theorem reported_again_of_blankLineText :
    clean { whitespace := true } (fun _ => false) blankLineText = .ok blankLineCleaned ∧
    ∃ again, clean { whitespace := true } (fun _ => false) blankLineCleaned.text = .ok again ∧
      again.sieved.changes = [⟨.whitespace, "x.ts".toList, ⟨.ofList [1], .ofList [1]⟩⟩] := by
  refine ⟨clean_blankLineText, ?_⟩
  have hcounts : CountsReadable blankLineCleaned.sieved.files := by
    refine countsReadable_of_length_lt ?_
    decide +kernel
  let source := blankLineCleaned.sieved.files.map File.reread
  refine ⟨⟨source, sieve { whitespace := true } (fun _ => false) source⟩, ?_, ?_⟩
  · exact (clean_text_eq_ok_iff clean_blankLineText).2 ⟨rfl, rfl, hcounts⟩
  · decide +kernel

/-- The first block of the sample is flagged as a whole and the second one not at all. -/
theorem silent_again_of_sampleText :
    ∃ cleaned again, clean { whitespace := true } (fun _ => false) sampleText = .ok cleaned ∧
      clean { whitespace := true } (fun _ => false) cleaned.text = .ok again ∧
      cleaned.sieved.changes ≠ [] ∧ again.sieved.changes = [] := by
  let cleaned : Cleaned :=
    ⟨[sampleFile], sieve { whitespace := true } (fun _ => false) [sampleFile]⟩
  have hclean : clean { whitespace := true } (fun _ => false) sampleText = .ok cleaned :=
    clean_eq_ok_iff.2 ⟨readDiff_sampleText, rfl⟩
  have hcounts : CountsReadable cleaned.sieved.files := by
    refine countsReadable_of_length_lt ?_
    decide +kernel
  obtain ⟨hagain, hreport⟩ := cleaning_again_reports_what_is_flagged_in_the_rest hclean
  obtain ⟨again, ha⟩ := hagain.2 hcounts
  refine ⟨cleaned, again, hclean, ha, by decide +kernel, (hreport again ha).2 ?_ ?_⟩
  · intro left hleft
    refine ⟨?_, ?_⟩
    · revert left
      decide +kernel
    · revert left
      decide +kernel
  · decide +kernel

end DiffSieve
