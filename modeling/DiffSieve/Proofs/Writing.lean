import DiffSieve.Proofs.Extent
import DiffSieve.Proofs.Rereading.Cleaned

/-!
# Writing with the limit on digits

Numbers are converted in both directions under the same limit, and the text of a diff is made
without looking at it.  `writeDiff` is that text with every number converted under the limit, so
that it can fail; where no number is too large it is the same text.  The starts of a hunk and the
similarity of a file were read under the limit, so that of a diff that was read only the counts can
be too large (`writes_writeDiff`), and these not before a hunk holds as many lines as there are
numbers of that length (`countsReadable_of_few_lines`).
-/

namespace DiffSieve

/-! ## Success under a condition -/

/-- Whether a computation gives a value under a condition, and without it fails for a number that
is too large. -/
structure Writes {α : Type} (x : Except Number.Fault α) (p : Prop) (a : α) : Prop where
  of_pos : p → x = .ok a
  of_neg : ¬ p → x = .error .tooLarge

namespace Writes

variable {α β : Type} {x : Except Number.Fault α} {p q : Prop} {a : α} {b : β}

lemma eq_ok_iff (h : Writes x p a) : x = .ok a ↔ p := by
  refine ⟨fun hok => ?_, h.of_pos⟩
  by_contra hp
  rw [h.of_neg hp] at hok
  contradiction

lemma congr (h : Writes x p a) (hpq : p ↔ q) : Writes x q a :=
  ⟨fun hq => h.of_pos (hpq.2 hq), fun hq => h.of_neg fun hp => hq (hpq.1 hp)⟩

lemma of_eq_ok (h : x = .ok a) : Writes x True a :=
  ⟨fun _ => h, fun hnot => absurd trivial hnot⟩

lemma bind {f : α → Except Number.Fault β} (h : Writes x p a) (hf : Writes (f a) q b) :
    Writes (x >>= f) (p ∧ q) b where
  of_pos := by
    rintro ⟨hp, hq⟩
    rw [h.of_pos hp]
    exact hf.of_pos hq
  of_neg hpq := by
    by_cases hp : p
    · rw [h.of_pos hp]
      exact hf.of_neg fun hq => hpq ⟨hp, hq⟩
    · rw [h.of_neg hp]
      rfl

lemma map (h : Writes x p a) (f : α → β) : Writes (x.map f) p (f a) where
  of_pos hp := by rw [h.of_pos hp]; rfl
  of_neg hp := by rw [h.of_neg hp]; rfl

lemma mapM {items : List α} {f : α → Except Number.Fault β} {p : α → Prop} {g : α → β}
    (h : ∀ item ∈ items, Writes (f item) (p item) (g item)) :
    Writes (items.mapM f) (∀ item ∈ items, p item) (items.map g) := by
  induction items with
  | nil => exact (of_eq_ok rfl).congr (by simp)
  | cons item rest ih =>
    rw [List.mapM_cons]
    have hrest := ih fun item hi => h item (List.mem_cons_of_mem _ hi)
    refine congr (bind (h item List.mem_cons_self) (bind hrest (of_eq_ok rfl))) ?_
    simp

end Writes

/-! ## Numbers, hunks, files -/

lemma Number.writes_write_natCast (n : Nat) : Writes (write n) (Readable n) (ofInt n) where
  of_pos := write_of_readable
  of_neg h := by
    have hle := Nat.le_of_not_lt fun hlt => h (readable_natCast.2 hlt)
    rw [write, Nat.pow_eq, Int.natAbs_natCast, if_pos hle]

namespace Hunk

/-- The header line that fits the lines held, if its numbers are not too large. -/
def writeHeader (hunk : Hunk) : Except Number.Fault Text := do
  let oldStart ← Number.write hunk.start.old
  let oldCount ← Number.write hunk.tally.old
  let newStart ← Number.write hunk.start.new
  let newCount ← Number.write hunk.tally.new
  return "@@ -".toList ++ oldStart ++ ',' :: oldCount ++ " +".toList ++ newStart ++
    ',' :: newCount ++ " @@".toList ++ if hunk.heading.isEmpty then [] else ' ' :: hunk.heading

/-- The lines of text that show the hunk, if its numbers are not too large. -/
def write (hunk : Hunk) : Except Number.Fault (List Text) :=
  hunk.writeHeader.map (· :: hunk.lines.map Line.render)

lemma writes_write {hunk : Hunk} (h : hunk.Writable) :
    Writes hunk.write hunk.CountsReadable hunk.render := by
  have holdStart := Writes.of_eq_ok (Number.write_of_readable h.start_old)
  have hnewStart := Writes.of_eq_ok (Number.write_of_readable h.start_new)
  have holdCount : Writes (Number.write hunk.tally.old) (Number.Readable hunk.tally.old) _ :=
    Number.writes_write_natCast _
  have hnewCount : Writes (Number.write hunk.tally.new) (Number.Readable hunk.tally.new) _ :=
    Number.writes_write_natCast _
  have hheader : Writes hunk.writeHeader hunk.CountsReadable hunk.renderHeader := by
    unfold writeHeader
    refine Writes.congr (holdStart.bind (holdCount.bind (hnewStart.bind (hnewCount.bind
      (Writes.of_eq_ok rfl))))) ?_
    simp [CountsReadable]
  exact hheader.map (· :: hunk.lines.map Line.render)

end Hunk

namespace File

/-- The lines of the extended header that depend on what happened to the file, if its similarity is
not too large. -/
def writeKind (file : File) : Except Number.Fault (List Text) :=
  match file.kind, file.metadata.similarity with
  | .rename, some n => do
    let shown ← Number.write n
    return ["similarity index ".toList ++ shown ++ ['%'], "rename from ".toList ++ file.sourcePath,
      "rename to ".toList ++ file.targetPath]
  | _, _ => .ok file.renderKind

/-- The lines before the first hunk, if their number is not too large. -/
def writeHeader (file : File) : Except Number.Fault (List Text) := do
  let kind ← file.writeKind
  return ["diff --git a/".toList ++ file.sourcePath ++ " b/".toList ++ file.targetPath] ++
    optionalLine "old mode ".toList file.metadata.oldMode ++
    optionalLine "new mode ".toList file.metadata.newMode ++
    kind ++ renderIndex file.metadata ++
    ["--- ".toList ++ (if file.kind = .add then nullDevice else "a/".toList ++ file.sourcePath),
      "+++ ".toList ++ (if file.kind = .delete then nullDevice else "b/".toList ++ file.targetPath)]

/-- The lines that show a file, if their numbers are not too large. -/
def write (file : File) : Except Number.Fault (List Text) :=
  match file.hunks.filter Hunk.hasChanges with
  | [] => .ok []
  | hunks => do
    let header ← file.writeHeader
    let shown ← hunks.mapM Hunk.write
    return header ++ shown.flatten

lemma writeHeader_of_writable {file : File} (h : file.Writable) :
    file.writeHeader = .ok file.renderHeader := by
  have hkind : file.writeKind = .ok file.renderKind := by
    unfold writeKind
    split
    · next n hkind hsimilarity =>
      rw [Number.write_of_readable (h.metadata.similarity n hsimilarity), renderKind, hkind,
        hsimilarity]
      rfl
    · rfl
  rw [writeHeader, hkind]
  rfl

lemma writes_write {file : File} (h : file.Writable) :
    Writes file.write (∀ hunk ∈ file.hunks, hunk.hasChanges = true → hunk.CountsReadable)
      file.render := by
  have hhunks : Writes ((file.hunks.filter Hunk.hasChanges).mapM Hunk.write)
      (∀ hunk ∈ file.hunks, hunk.hasChanges = true → hunk.CountsReadable)
      ((file.hunks.filter Hunk.hasChanges).map Hunk.render) := by
    refine (Writes.mapM fun hunk hh => Hunk.writes_write ?_).congr (by simp)
    exact h.hunks hunk (List.mem_filter.1 hh).1
  unfold write render
  cases hshown : file.hunks.filter Hunk.hasChanges with
  | nil =>
    rw [hshown] at hhunks
    exact (Writes.of_eq_ok rfl).congr (iff_of_true trivial (hhunks.eq_ok_iff.1 rfl))
  | cons hunk more =>
    rw [hshown] at hhunks
    simp only [writeHeader_of_writable h]
    refine Writes.congr (Writes.bind (Writes.of_eq_ok rfl) (Writes.bind hhunks
      (Writes.of_eq_ok rfl))) ?_
    simp

end File

/-- The text of a diff, if its numbers are not too large. -/
def writeDiff (files : List File) : Except Number.Fault Text := do
  let shown ← files.mapM File.write
  return shown.flatten.flatMap (· ++ ['\n'])

/-- Of files that can be written, the counts alone decide whether a number is too large. -/
lemma writes_writeDiff {files : List File} (h : ∀ file ∈ files, file.Writable) :
    Writes (writeDiff files) (CountsReadable files) (renderDiff files) := by
  have hfiles : Writes (files.mapM File.write) (CountsReadable files) (files.map File.render) :=
    Writes.mapM fun file hf => File.writes_write (h file hf)
  rw [renderDiff, List.flatMap_def]
  exact hfiles.map _

/-- The counts of what is left of a diff are not too large if it has few lines. -/
lemma countsReadable_of_few_lines {config : Config} {passes : Text → Bool} {text : Text}
    {cleaned : Cleaned} (h : clean config passes text = .ok cleaned)
    (hfew : (Text.lines text).length < 10 ^ Number.digitLimit) :
    CountsReadable cleaned.sieved.files := by
  obtain ⟨hread, hsieved⟩ := clean_eq_ok_iff.1 h
  refine countsReadable_of_length_lt fun left hleft hunk hh => ?_
  rw [hsieved] at hleft
  obtain ⟨file, hf, rfl, -⟩ := mem_files_of_sieve hleft
  obtain ⟨original, ho, rfl⟩ := List.mem_map.1 (List.mem_filter.1 hh).1
  have hleft : (original.leftLines config passes file.path).length ≤ original.lines.length := by
    unfold Hunk.leftLines
    split
    · exact Nat.le_refl _
    · exact Flags.length_stripLines_le _ _
  have hlength := length_lines_of_readDiff hread file hf original ho
  exact Nat.lt_of_le_of_lt (hleft.trans hlength) hfew

end DiffSieve
