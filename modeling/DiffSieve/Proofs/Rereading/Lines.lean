import DiffSieve.Proofs.Numerals
import DiffSieve.Diff.File
import Mathlib.Tactic.MkIffOfInductiveProp

/-!
# The lines of a rendered diff

A rendered diff is a list of lines, each ended by a line feed, and it can be taken apart again only
if no line holds a line feed of its own.  That is so if no text that is shown holds one: the words
around the texts do not, and numerals do not either.

`Writable` says this of a hunk, of an extended header and of a file, and with it that the numbers
which are written as they are stored, the starts and the similarity, are numerals that are read
back.
-/

namespace DiffSieve

/-! ## What is shown of a file -/

namespace File

/-- Whether some hunk has a change. -/
def hasChanges (file : File) : Bool :=
  file.hunks.any Hunk.hasChanges

variable {file : File}

lemma render_of_hasChanges (h : file.hasChanges = true) :
    file.render =
      file.renderHeader ++ (file.hunks.filter Hunk.hasChanges).flatMap Hunk.render := by
  unfold render
  split
  · next hnil =>
    obtain ⟨hunk, hmem, hchange⟩ := List.any_eq_true.1 h
    exact absurd hchange (List.filter_eq_nil_iff.1 hnil hunk hmem)
  · rfl

lemma render_of_not_hasChanges (h : ¬ file.hasChanges = true) : file.render = [] := by
  have hnil : file.hunks.filter Hunk.hasChanges = [] :=
    List.filter_eq_nil_iff.2 fun hunk hmem hchange => h (List.any_eq_true.2 ⟨hunk, hmem, hchange⟩)
  rw [render, hnil]

lemma renderHeader_mem_hunks {hunk : Hunk} (hh : hunk ∈ file.hunks)
    (hc : hunk.hasChanges = true) :
    hunk.renderHeader ∈ (file.hunks.filter Hunk.hasChanges).flatMap Hunk.render :=
  List.mem_flatMap.2 ⟨hunk, List.mem_filter.2 ⟨hh, hc⟩, .head _⟩

lemma renderHeader_mem_render {hunk : Hunk} (hh : hunk ∈ file.hunks)
    (hc : hunk.hasChanges = true) : hunk.renderHeader ∈ file.render := by
  rw [render_of_hasChanges (List.any_eq_true.2 ⟨hunk, hh, hc⟩)]
  exact List.mem_append_right _ (renderHeader_mem_hunks hh hc)

end File

/-! ## Lines without a line feed -/

lemma not_mem_ofInt (n : Int) : '\n' ∉ Number.ofInt n := by
  have hnat : ∀ k, '\n' ∉ Number.ofNat k :=
    fun k hc => absurd (Number.isDecimal_of_mem_ofNat hc) (by decide)
  cases n with
  | ofNat k => exact hnat k
  | negSucc k =>
    intro hc
    rcases List.mem_cons.1 hc with hminus | hc
    · exact absurd hminus (by decide)
    · exact hnat _ hc

lemma not_mem_optionalLine {lead : Text} (hlead : '\n' ∉ lead) {text : Option Text}
    (h : ∀ words ∈ text, '\n' ∉ words) : ∀ line ∈ optionalLine lead text, '\n' ∉ line := by
  cases text with
  | none =>
    intro line hl
    exact absurd hl List.not_mem_nil
  | some words =>
    intro line hl
    rw [optionalLine] at hl
    split at hl
    · exact absurd hl List.not_mem_nil
    · obtain rfl := List.mem_singleton.1 hl
      rw [List.mem_append]
      rintro (hc | hc)
      · exact hlead hc
      · exact h words rfl hc

/-- Whether a hunk can be shown by lines whose starts are read back. -/
@[mk_iff]
structure Hunk.Writable (hunk : Hunk) : Prop where
  start_old : Number.Readable hunk.start.old
  start_new : Number.Readable hunk.start.new
  heading : '\n' ∉ hunk.heading
  contents : ∀ line ∈ hunk.lines, '\n' ∉ line.content

instance (hunk : Hunk) : Decidable hunk.Writable :=
  decidable_of_iff' _ (Hunk.writable_iff hunk)

lemma Hunk.Writable.not_mem_of_mem_render {hunk : Hunk} (h : hunk.Writable) {line : Text}
    (hl : line ∈ hunk.render) : '\n' ∉ line := by
  rw [render] at hl
  rcases List.mem_cons.1 hl with rfl | hl
  · unfold renderHeader
    split
    · simp [not_mem_ofInt]
    · simp [not_mem_ofInt, h.heading]
  · obtain ⟨shown, hshown, rfl⟩ := List.mem_map.1 hl
    have hcontent := h.contents shown hshown
    cases shown <;> simpa [Line.render, Line.mark] using hcontent

/-- Whether no text in the extended header holds a line feed and the similarity is read back. -/
@[mk_iff]
structure Metadata.Writable (metadata : Metadata) : Prop where
  modes : ∀ mode ∈ [metadata.newFileMode, metadata.deletedFileMode, metadata.oldMode,
    metadata.newMode, metadata.indexMode], ∀ text ∈ mode, '\n' ∉ text
  index : ∀ names ∈ metadata.index, '\n' ∉ names.1 ∧ '\n' ∉ names.2
  similarity : ∀ n ∈ metadata.similarity, Number.Readable n

instance (metadata : Metadata) : Decidable metadata.Writable :=
  decidable_of_iff' _ (Metadata.writable_iff metadata)

/-- Whether a file can be shown by lines whose numbers, the counts of its hunks apart, are read
back. -/
@[mk_iff]
structure File.Writable (file : File) : Prop where
  path : '\n' ∉ file.path
  source : ∀ path ∈ file.source, '\n' ∉ path
  target : ∀ path ∈ file.target, '\n' ∉ path
  metadata : file.metadata.Writable
  hunks : ∀ hunk ∈ file.hunks, hunk.Writable

instance (file : File) : Decidable file.Writable :=
  decidable_of_iff' _ (File.writable_iff file)

namespace File

variable {file : File}

lemma not_mem_firstKnown {first second : Option Text} {last : Text}
    (hf : ∀ text ∈ first, '\n' ∉ text) (hs : ∀ text ∈ second, '\n' ∉ text) (hl : '\n' ∉ last) :
    '\n' ∉ firstKnown first second last := by
  unfold firstKnown
  split
  · next h => exact hf _ (Option.eq_some_of_filter_eq_some h)
  · next h => exact hs _ (Option.eq_some_of_filter_eq_some h)
  · exact hl

lemma Writable.sourcePath (h : file.Writable) : '\n' ∉ file.sourcePath :=
  not_mem_firstKnown h.source h.target h.path

lemma Writable.targetPath (h : file.Writable) : '\n' ∉ file.targetPath :=
  not_mem_firstKnown h.target h.source h.path

lemma Writable.not_mem_of_mem_renderKind (h : file.Writable) {line : Text}
    (hl : line ∈ file.renderKind) : '\n' ∉ line := by
  unfold renderKind at hl
  split at hl
  · exact not_mem_optionalLine (by decide) (h.metadata.modes _ (by simp)) line hl
  · exact not_mem_optionalLine (by decide) (h.metadata.modes _ (by simp)) line hl
  · rcases List.mem_append.1 hl with hl | hl
    · split at hl
      · obtain rfl := List.mem_singleton.1 hl
        simp [not_mem_ofInt]
      · exact absurd hl List.not_mem_nil
    · have hsource := h.sourcePath
      have htarget := h.targetPath
      simp only [List.mem_cons, List.not_mem_nil, or_false] at hl
      rcases hl with rfl | rfl
      · simp [hsource]
      · simp [htarget]
  · exact absurd hl List.not_mem_nil

lemma not_mem_of_mem_renderIndex {metadata : Metadata} (h : metadata.Writable) {line : Text}
    (hl : line ∈ renderIndex metadata) : '\n' ∉ line := by
  unfold renderIndex at hl
  split at hl
  · next old new hindex =>
    have hmode : '\n' ∉ (optionalLine [' '] metadata.indexMode).flatten := by
      intro hc
      obtain ⟨piece, hpiece, hc⟩ := List.mem_flatten.1 hc
      exact not_mem_optionalLine (by decide) (h.modes _ (by simp)) piece hpiece hc
    obtain ⟨hold, hnew⟩ := h.index (old, new) hindex
    obtain rfl := List.mem_singleton.1 hl
    simp only [List.mem_append, not_or]
    exact ⟨⟨⟨⟨by decide, hold⟩, by decide⟩, hnew⟩, hmode⟩
  · exact absurd hl List.not_mem_nil

lemma Writable.not_mem_of_mem_renderHeader (h : file.Writable) {line : Text}
    (hl : line ∈ file.renderHeader) : '\n' ∉ line := by
  have hsource := h.sourcePath
  have htarget := h.targetPath
  simp only [renderHeader, List.mem_append, List.mem_cons, List.not_mem_nil, or_false] at hl
  rcases hl with ((((rfl | hl) | hl) | hl) | hl) | rfl | rfl
  · simp [hsource, htarget]
  · exact not_mem_optionalLine (by decide) (h.metadata.modes _ (by simp)) line hl
  · exact not_mem_optionalLine (by decide) (h.metadata.modes _ (by simp)) line hl
  · exact h.not_mem_of_mem_renderKind hl
  · exact not_mem_of_mem_renderIndex h.metadata hl
  · split
    · decide
    · simp [hsource]
  · split
    · decide
    · simp [htarget]

lemma Writable.not_mem_of_mem_render (h : file.Writable) {line : Text} (hl : line ∈ file.render) :
    '\n' ∉ line := by
  by_cases hc : file.hasChanges = true
  · rw [render_of_hasChanges hc] at hl
    rcases List.mem_append.1 hl with hl | hl
    · exact h.not_mem_of_mem_renderHeader hl
    · obtain ⟨hunk, hmem, hl⟩ := List.mem_flatMap.1 hl
      exact (h.hunks hunk (List.mem_filter.1 hmem).1).not_mem_of_mem_render hl
  · rw [render_of_not_hasChanges hc] at hl
    exact absurd hl List.not_mem_nil

end File
end DiffSieve
