import DiffSieve.Proofs.LineEnds
import DiffSieve.Proofs.Reading
import DiffSieve.Proofs.Rereading.Cleaned

/-!
# Diffs one after the other

A line that opens a file ends all that was open before it, so a text that begins with such a line is
read as if nothing stood before it (`readFrom_append`).  Everything after reading goes file by file:
the files of a diff are sieved, reported, counted and rendered one by one.  So a diff may be cut
before any file and cleaned in parts, and what its files contribute does not depend on the company
they are in (`files_are_independent`).

What passes through takes a way of its own, which copies hunks instead of stripping them.  It leads
to the same result as stripping hunks in which nothing is found (`File.sieved_eq_passed`).
-/

namespace DiffSieve

/-! ## Reading in parts -/

/-- If the lines that follow open a file, they are read as if nothing stood before them. -/
lemma readFrom_append (place : Place) (first : List Text) {second : List Text}
    (h : ∀ line ∈ second.head?, ∃ paths, Role.ofLine line = .file paths) :
    readFrom place (first ++ second) =
      (readFrom place first).bind fun files => (readFrom .outside second).map (files ++ ·) := by
  induction first generalizing place with
  | nil =>
    cases second with
    | nil => exact congrArg Except.ok (List.append_nil _).symm
    | cons line rest =>
      obtain ⟨paths, hrole⟩ := h line rfl
      rw [List.nil_append, readFrom_cons_of_file place hrole, readFrom_cons_of_file .outside hrole]
      show _ = ((readFrom (.header (File.opened paths)) rest).map _).map _
      cases readFrom (.header (File.opened paths)) rest <;> rfl
  | cons line rest ih =>
    rw [List.cons_append]
    by_cases hfile : ∃ paths, Role.ofLine line = .file paths
    · obtain ⟨paths, hrole⟩ := hfile
      rw [readFrom_cons_of_file place hrole, readFrom_cons_of_file place hrole, ih]
      cases readFrom (.header (File.opened paths)) rest with
      | error fault => rfl
      | ok files =>
        cases readFrom .outside second with
        | error fault => rfl
        | ok later => exact congrArg Except.ok (List.append_assoc _ _ _).symm
    · have hrole : ∀ paths, Role.ofLine line ≠ .file paths := fun paths hr => hfile ⟨paths, hr⟩
      rw [readFrom_cons_of_step place hrole, readFrom_cons_of_step place hrole]
      cases place.step line (Role.ofLine line) with
      | error fault => rfl
      | ok place' => exact ih place'

section

variable {first second : Text}

lemma readDiff_append (hf : first = [] ∨ first.getLast? = some '\n')
    (hs : second = [] ∨ fileLead <+: second) :
    readDiff (first ++ second) =
      (readDiff first).bind fun files => (readDiff second).map (files ++ ·) := by
  have hopens : ∀ line ∈ (Text.lines second).head?, ∃ paths, Role.ofLine line = .file paths := by
    intro line hl
    rcases hs with rfl | ⟨rest, rfl⟩
    · cases hl
    · exact role_of_fileLead (Text.prefix_of_mem_head?_lines (by decide) (by decide) rest line hl)
  rw [readDiff, Text.lines_append hf, readFrom_append _ _ hopens, readDiff, readDiff]

/-! ## Cleaning in parts -/

/-- What is left of two lots of files, one after the other. -/
instance : Append Sieved :=
  ⟨fun s t => ⟨s.files ++ t.files, s.changes ++ t.changes, s.paths ++ t.paths⟩⟩

/-- Two cleaned diffs, one after the other. -/
instance : Append Cleaned :=
  ⟨fun a b => ⟨a.source ++ b.source, a.sieved ++ b.sieved⟩⟩

lemma sieve_append (config : Config) (passes : Text → Bool) (first second : List File) :
    sieve config passes (first ++ second) =
      sieve config passes first ++ sieve config passes second := by
  simp only [sieve, List.map_append, List.flatMap_append]
  rfl

lemma clean_append (hf : first = [] ∨ first.getLast? = some '\n')
    (hs : second = [] ∨ fileLead <+: second) (config : Config) (passes : Text → Bool) :
    clean config passes (first ++ second) =
      (clean config passes first).bind fun a => (clean config passes second).map (a ++ ·) := by
  rw [clean, clean, clean, readDiff_append hf hs]
  cases readDiff first with
  | error fault => rfl
  | ok files =>
    cases readDiff second with
    | error fault => rfl
    | ok later =>
      show Except.ok (Cleaned.mk (files ++ later) (sieve config passes (files ++ later))) = _
      rw [sieve_append]
      rfl

lemma changedCount_append (first second : List File) :
    changedCount (first ++ second) = changedCount first + changedCount second := by
  simp only [changedCount, allLines, List.flatMap_append, List.countP_append]

/-- Whether a cleaned diff is what two others are together. -/
structure Cleaned.Joins (whole first second : Cleaned) : Prop where
  source : whole.source = first.source ++ second.source
  files : whole.sieved.files = first.sieved.files ++ second.sieved.files
  changes : whole.sieved.changes = first.sieved.changes ++ second.sieved.changes
  paths : whole.sieved.paths = first.sieved.paths ++ second.sieved.paths
  text : whole.text = first.text ++ second.text
  filesCount : whole.statistics.files = first.statistics.files + second.statistics.files
  filesWithChanges : whole.statistics.filesWithChanges =
    first.statistics.filesWithChanges + second.statistics.filesWithChanges
  linesRemoved : whole.statistics.linesRemoved =
    first.statistics.linesRemoved + second.statistics.linesRemoved
  lines : whole.statistics.lines = first.statistics.lines + second.statistics.lines

lemma Cleaned.joins_append (a b : Cleaned) : (a ++ b).Joins a b where
  source := rfl
  files := rfl
  changes := rfl
  paths := rfl
  text := by
    show renderDiff (a.sieved.files ++ b.sieved.files) = _
    simp only [Cleaned.text, renderDiff, List.flatMap_append]
  filesCount := List.length_append
  filesWithChanges := List.length_append
  linesRemoved := by
    show ((changedCount (a.source ++ b.source) : Int) -
      changedCount (a.sieved.files ++ b.sieved.files)) = _
    rw [changedCount_append, changedCount_append]
    simp only [Cleaned.statistics, Statistics.ofFiles]
    omega
  lines := by
    show (allLines (a.source ++ b.source)).length = _
    simp only [allLines, List.flatMap_append, List.length_append]
    rfl

end

/-! ## Files alone -/

/-- With no category to be removed nothing is found. -/
lemma Hunk.findings_eq_nil_of_off {off : Config} (h : ∀ c, off.ignores c = false) (path : Text)
    (hunk : Hunk) : hunk.findings off path = [] := by
  have hnone : off.categories = [] := by
    rw [Config.categories, List.filter_eq_nil_iff]
    intro c _
    simp [h c]
  rw [findings, DiffSieve.findings, hnone]
  rfl

/-- A file passes through if it is told to, and just so if no category is to be removed. -/
lemma File.sieve_eq_sieved {off : Config} (h : ∀ c, off.ignores c = false) (config : Config)
    (passes : Text → Bool) (file : File) :
    file.sieve config passes = file.sieved (if passes file.path then off else config) := by
  rw [sieve]
  split
  · exact (sieved_eq_passed fun hunk _ => hunk.findings_eq_nil_of_off h file.path).symm
  · rfl

/-- What becomes of a file where no other file is and none passes through. -/
lemma sieve_singleton (config : Config) (file : File) :
    DiffSieve.sieve config (fun _ => false) [file] = file.sieved config := by
  simp [DiffSieve.sieve, File.sieve]

/-- Let a text end at a line end, and let another one begin with the line that opens a file.
Together they can be cleaned exactly if each of them can, and what is then read, left, reported,
shown and counted is what was read, left, reported, shown and counted of each.  What a file
contributes is what it does alone if no file passes through: with the categories that are to be
removed, or without any category if it is one to pass through. -/
theorem files_are_independent {first second : Text}
    (hf : first = [] ∨ first.getLast? = some '\n') (hs : second = [] ∨ fileLead <+: second)
    (config : Config) (passes : Text → Bool) :
    ((∃ fault, clean config passes (first ++ second) = .error fault) ↔
      (∃ fault, clean config passes first = .error fault) ∨
        ∃ fault, clean config passes second = .error fault) ∧
    (∀ a b, clean config passes first = .ok a → clean config passes second = .ok b →
      ∃ whole, clean config passes (first ++ second) = .ok whole ∧ whole.Joins a b) ∧
    ∀ off : Config, (∀ c, off.ignores c = false) → ∀ files : List File,
      let alone file := sieve (if passes file.path then off else config) (fun _ => false) [file]
      sieve config passes files =
        ⟨files.flatMap fun file => (alone file).files,
          files.flatMap fun file => (alone file).changes,
          files.flatMap fun file => (alone file).paths⟩ := by
  have happend := clean_append hf hs config passes
  refine ⟨?_, ?_, ?_⟩
  · rw [happend]
    cases clean config passes first with
    | error fault => simp [Except.bind]
    | ok a => cases clean config passes second <;> simp [Except.bind, Except.map]
  · intro a b ha hb
    rw [ha, hb] at happend
    exact ⟨a ++ b, happend, a.joins_append b⟩
  · intro off hoff files alone
    have halone : ∀ file, alone file = file.sieve config passes := by
      intro file
      rw [File.sieve_eq_sieved hoff, ← sieve_singleton]
    simp only [halone, sieve, List.flatMap_map]

/-- A text that begins before its first file, and the sample after it; of the files of the first
text the one without a hunk is to pass through. -/
theorem joined_of_tangledText :
    tangledText.getLast? = some '\n' ∧ fileLead <+: sampleText ∧
    ∃ a b whole, clean { whitespace := true } (· == ['y']) tangledText = .ok a ∧
      clean { whitespace := true } (· == ['y']) sampleText = .ok b ∧
      clean { whitespace := true } (· == ['y']) (tangledText ++ sampleText) = .ok whole ∧
      whole.Joins a b ∧ whole.source = tangledFiles ++ [sampleFile] ∧
      whole.statistics.linesRemoved = 2 := by
  have hends : tangledText.getLast? = some '\n' := by decide
  have hopens : fileLead <+: sampleText := by decide
  have ha : clean { whitespace := true } (· == ['y']) tangledText =
      .ok ⟨tangledFiles, sieve { whitespace := true } (· == ['y']) tangledFiles⟩ :=
    clean_eq_ok_iff.2 ⟨by rfl, rfl⟩
  have hb : clean { whitespace := true } (· == ['y']) sampleText =
      .ok ⟨[sampleFile], sieve { whitespace := true } (· == ['y']) [sampleFile]⟩ :=
    clean_eq_ok_iff.2 ⟨readDiff_sampleText, rfl⟩
  obtain ⟨-, hjoin, -⟩ :=
    files_are_independent (.inr hends) (.inr hopens) { whitespace := true } (· == ['y'])
  obtain ⟨whole, hwhole, hjoins⟩ := hjoin _ _ ha hb
  refine ⟨hends, hopens, _, _, whole, ha, hb, hwhole, hjoins, hjoins.source, ?_⟩
  rw [hjoins.linesRemoved]
  decide +kernel

end DiffSieve
