import DiffSieve.Proofs.Rereading.Header
import DiffSieve.Proofs.Rereading.Hunk
import DiffSieve.Proofs.Rereading.Lines
import Mathlib.Data.List.Forall2

/-!
# A rendered diff read back

A rendered diff is read as its files that have a change, each as `File.reread`, and it is read at
all exactly if the counts in its hunk headers are numerals that are read back
(`readDiff_renderDiff_eq_ok_iff`).  No stored count and no stored header line has a part in this:
what is shown of a hunk is computed from the lines it holds.
-/

namespace DiffSieve

/-! ## Files -/

/-- Wherever the reader is in a file, the lines of rendered hunks add the hunks reread. -/
lemma exists_place_hunks {hunks : List Hunk} (h : ∀ hunk ∈ hunks, hunk.ShowsReadable)
    {place : Place} {file : File} (hp : place.file? = some file) :
    ∃ place', Place.file? place' = some { file with hunks := file.hunks ++ hunks.map Hunk.reread } ∧
      ∀ rest, readFrom place ((hunks.flatMap Hunk.render).map (Text.dropFinal '\r') ++ rest) =
        readFrom place' rest := by
  induction hunks generalizing place file with
  | nil =>
    refine ⟨place, ?_, fun _ => rfl⟩
    rw [hp, List.map_nil, List.append_nil]
  | cons hunk more ih =>
    obtain ⟨place₁, hp₁, hread₁⟩ := Hunk.exists_place_hunk (h hunk (.head _)) hp
    obtain ⟨place₂, hp₂, hread₂⟩ := ih (fun hunk hm => h hunk (.tail _ hm)) hp₁
    refine ⟨place₂, ?_, fun rest => ?_⟩
    · rw [hp₂, List.map_cons, List.append_assoc, List.singleton_append]
    · rw [List.flatMap_cons, List.map_append, List.append_assoc, hread₁, hread₂]

namespace File

/-- The file that a rendered file is read as. -/
def reread (file : File) : File :=
  { file.headerReread with hunks := (file.hunks.filter Hunk.hasChanges).map Hunk.reread }

/-- Whether all numbers in the lines that show a file are read back. -/
structure ShowsReadable (file : File) : Prop where
  similarity : ∀ n ∈ file.metadata.similarity, Number.Readable n
  hunks : ∀ hunk ∈ file.hunks.filter Hunk.hasChanges, hunk.ShowsReadable

variable {file : File}

/-- Wherever the reader is, the lines of a rendered file end the file before it and begin the file
reread. -/
lemma exists_place_file (h : file.ShowsReadable) (hc : file.hasChanges = true) :
    ∃ place', Place.file? place' = some file.reread ∧
      ∀ place rest, readFrom place (file.render.map (Text.dropFinal '\r') ++ rest) =
        (readFrom place' rest).map (place.file?.toList ++ ·) := by
  have hheader : Place.file? (.header file.headerReread) = some file.headerReread := rfl
  obtain ⟨place', hp, hread⟩ := exists_place_hunks h.hunks hheader
  refine ⟨place', ?_, fun place rest => ?_⟩
  · rw [hp, hunks_headerReread, List.nil_append, reread]
  · rw [render_of_hasChanges hc, List.map_append, List.append_assoc,
      readFrom_renderHeader place h.similarity, hread]

end File

/-- The lines of a rendered diff are read as the files with a change, reread. -/
lemma readFrom_render {files : List File} (h : ∀ file ∈ files, file.ShowsReadable)
    (place : Place) :
    readFrom place ((files.flatMap File.render).map (Text.dropFinal '\r')) =
      .ok (place.file?.toList ++ (files.filter File.hasChanges).map File.reread) := by
  induction files generalizing place with
  | nil =>
    rw [List.flatMap_nil, List.filter_nil, List.map_nil, List.map_nil, List.append_nil]
    rfl
  | cons file more ih =>
    have hmore := ih fun file hm => h file (.tail _ hm)
    rw [List.flatMap_cons, List.map_append]
    by_cases hc : file.hasChanges = true
    · obtain ⟨place', hp, hread⟩ := File.exists_place_file (h file (.head _)) hc
      rw [hread, hmore, hp, List.filter_cons_of_pos hc, List.map_cons]
      rfl
    · rw [File.render_of_not_hasChanges hc, List.filter_cons_of_neg hc]
      exact hmore place

/-! ## When a rendered diff can be read -/

lemma not_mem_of_mem_render {files : List File} (h : ∀ file ∈ files, file.Writable) :
    ∀ line ∈ files.flatMap File.render, '\n' ∉ line := by
  intro line hl
  obtain ⟨file, hmem, hl⟩ := List.mem_flatMap.1 hl
  exact (h file hmem).not_mem_of_mem_render hl

/-- Whether the counts in the header line of a hunk are read back. -/
def Hunk.CountsReadable (hunk : Hunk) : Prop :=
  Number.Readable hunk.tally.old ∧ Number.Readable hunk.tally.new

/-- Whether the counts in all header lines of hunks in a rendered diff are read back. -/
def CountsReadable (files : List File) : Prop :=
  ∀ file ∈ files, ∀ hunk ∈ file.hunks, hunk.hasChanges = true → hunk.CountsReadable

/-- A count cannot be refused before a hunk has as many lines as there are readable numbers. -/
lemma countsReadable_of_length_lt {files : List File}
    (h : ∀ file ∈ files, ∀ hunk ∈ file.hunks, hunk.lines.length < 10 ^ Number.digitLimit) :
    CountsReadable files := by
  intro file hf hunk hh _
  have hlength := h file hf hunk hh
  exact ⟨Number.readable_natCast.2 (Nat.lt_of_le_of_lt List.countP_le_length hlength),
    Number.readable_natCast.2 (Nat.lt_of_le_of_lt List.countP_le_length hlength)⟩

/-- If a rendered diff is read, the header line of every hunk that it shows was accepted. -/
lemma countsReadable_of_readFrom {files : List File} (h : ∀ file ∈ files, file.Writable)
    {place : Place} {parsed : List File}
    (hp : readFrom place ((files.flatMap File.render).map (Text.dropFinal '\r')) = .ok parsed)
    {file : File} (hf : file ∈ files) {hunk : Hunk} (hh : hunk ∈ file.hunks)
    (hc : hunk.hasChanges = true) : hunk.CountsReadable := by
  induction files generalizing place parsed with
  | nil => cases hf
  | cons first more ih =>
    rw [List.flatMap_cons, List.map_append] at hp
    by_cases hfirst : first.hasChanges = true
    · -- the reader is in `first` when it meets the hunk, whichever file the hunk belongs to
      have hlines : Text.dropFinal '\r' hunk.renderHeader ∈
          ((first.hunks.filter Hunk.hasChanges).flatMap Hunk.render).map (Text.dropFinal '\r') ++
            (more.flatMap File.render).map (Text.dropFinal '\r') := by
        rcases List.mem_cons.1 hf with rfl | hf
        · have hshown := File.renderHeader_mem_hunks hh hc
          exact List.mem_append_left _ (List.mem_map_of_mem hshown)
        · have hshown := List.mem_flatMap.2 ⟨file, hf, File.renderHeader_mem_render hh hc⟩
          exact List.mem_append_right _ (List.mem_map_of_mem hshown)
      rw [File.render_of_hasChanges hfirst, List.map_append, List.append_assoc,
        File.readFrom_renderHeader place (h first (.head _)).metadata.similarity] at hp
      cases hread : readFrom (.header first.headerReread)
          (((first.hunks.filter Hunk.hasChanges).flatMap Hunk.render).map (Text.dropFinal '\r') ++
            (more.flatMap File.render).map (Text.dropFinal '\r')) with
      | error fault => rw [hread] at hp; contradiction
      | ok later =>
        have hstart := (h file hf).hunks hunk hh
        obtain ⟨opened, hopened⟩ := opened_of_readFrom rfl hread hlines
          (Hunk.role_renderHeader hstart.start_old.1 hstart.start_new.1)
        exact Hunk.readable_of_opened hopened
    · rw [File.render_of_not_hasChanges hfirst] at hp
      rcases List.mem_cons.1 hf with rfl | hf
      · exact absurd (List.any_eq_true.2 ⟨hunk, hh, hc⟩) hfirst
      · exact ih (fun file hm => h file (.tail _ hm)) hp hf

/-- A rendered diff is read as its files with a change, reread, and it is read exactly if all
counts that it shows are read back. -/
lemma readDiff_renderDiff_eq_ok_iff {files : List File} (h : ∀ file ∈ files, file.Writable)
    {parsed : List File} :
    readDiff (renderDiff files) = .ok parsed ↔
      parsed = (files.filter File.hasChanges).map File.reread ∧ CountsReadable files := by
  have hlines : Text.lines (renderDiff files) =
      (files.flatMap File.render).map (Text.dropFinal '\r') :=
    Text.lines_terminated (not_mem_of_mem_render h)
  have hread (hc : CountsReadable files) :
      readDiff (renderDiff files) = .ok ((files.filter File.hasChanges).map File.reread) := by
    have hshows : ∀ file ∈ files, file.ShowsReadable := by
      intro file hf
      refine ⟨(h file hf).metadata.similarity, fun hunk hm => ?_⟩
      obtain ⟨hh, hchange⟩ := List.mem_filter.1 hm
      obtain ⟨hold, hnew⟩ := hc file hf hunk hh hchange
      have hstart := (h file hf).hunks hunk hh
      exact ⟨hstart.start_old, hstart.start_new, hold, hnew⟩
    rw [readDiff, hlines, readFrom_render hshows]
    rfl
  constructor
  · intro hp
    have hc : CountsReadable files := by
      intro file hf hunk hh hchange
      rw [readDiff, hlines] at hp
      exact countsReadable_of_readFrom h hp hf hh hchange
    rw [hread hc] at hp
    exact ⟨(Except.ok.inj hp).symm, hc⟩
  · rintro ⟨rfl, hc⟩
    exact hread hc

end DiffSieve
