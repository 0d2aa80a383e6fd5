import DiffSieve.Proofs.LineEnds
import DiffSieve.Proofs.Rereading.Lines
import DiffSieve.Proofs.Survivors
import Mathlib.Data.List.Induction

/-!
# What was read can be written

The reader takes everything it stores from the lines of a text: a text is a part of a line, and a
number the value of a numeral.  So no text in a diff that was read holds a line feed, and no number
has more digits than are converted, which is what `File.Writable` asks for.  Sieving takes lines
away and numbers others anew, and neither makes new texts; so what is left of a diff that was read
can be written as well.
-/

namespace DiffSieve

/-! ## Parts of a text -/

namespace Text

variable {c : Char} {mark text piece : Text}

lemma afterLast_subset (c : Char) (text : Text) : afterLast c text ⊆ text := by
  intro d hd
  have hmem := List.mem_reverse.1 hd
  exact List.mem_reverse.1 ((List.takeWhile_sublist _).subset hmem)

lemma dropEndWhile_subset (p : Char → Bool) (text : Text) : dropEndWhile p text ⊆ text := by
  intro d hd
  have hmem := List.mem_reverse.1 hd
  exact List.mem_reverse.1 ((List.dropWhile_sublist _).subset hmem)

lemma trim_subset (text : Text) : trim text ⊆ text :=
  List.Subset.trans (dropEndWhile_subset _ _) (List.dropWhile_sublist _).subset

lemma after?_subset (h : after? mark text = some piece) : piece ⊆ text := by
  rw [after?_eq_some_iff.1 h]
  exact List.subset_append_right _ _

lemma cut_subset {before after : Text} (h : cut mark text = some (before, after)) :
    before ⊆ text ∧ after ⊆ text := by
  rw [cut_eq_append h]
  exact ⟨fun d hd => by simp [hd], fun d hd => by simp [hd]⟩

lemma subset_of_mem_splitOn (h : piece ∈ text.splitOn c) : piece ⊆ text := by
  induction text generalizing piece with
  | nil =>
    rw [List.splitOn_nil, List.mem_singleton] at h
    exact h ▸ List.Subset.refl _
  | cons d rest ih =>
    rw [List.splitOn_cons_eq_if_modifyHead] at h
    split at h
    · rcases List.mem_cons.1 h with rfl | h
      · exact List.nil_subset _
      · exact List.subset_cons_of_subset d (ih h)
    · cases hsplit : rest.splitOn c with
      | nil => exact absurd hsplit (List.splitOn_ne_nil c rest)
      | cons first more =>
        rw [hsplit] at h ih
        rcases List.mem_cons.1 h with rfl | h
        · exact List.cons_subset_cons d (ih List.mem_cons_self)
        · exact List.subset_cons_of_subset d (ih (List.mem_cons_of_mem _ h))

end Text

/-! ## Numbers that were read -/

namespace Number

lemma ofDigits_lt {digits : List Nat} (h : ∀ d ∈ digits, d < 10) :
    ofDigits digits < 10 ^ digits.length := by
  induction digits using List.reverseRecOn with
  | nil => exact Nat.one_pos
  | append_singleton digits last ih =>
    have hlast := h last (by simp)
    have hinit := ih fun d hd => h d (by simp [hd])
    rw [ofDigits, List.foldl_append, ← ofDigits, List.length_append, List.length_singleton,
      Nat.pow_succ]
    simp only [List.foldl_cons, List.foldl_nil]
    omega

lemma of_mapM_decimalValue? {word : Text} {digits : List Nat}
    (h : word.mapM Text.decimalValue? = some digits) :
    (∀ c ∈ word, Text.isDecimal c = true) ∧ digits.length = word.length ∧ ∀ d ∈ digits, d < 10 := by
  induction word generalizing digits with
  | nil =>
    cases h
    simp
  | cons c rest ih =>
    rw [List.mapM_cons] at h
    cases hc : Text.decimalValue? c with
    | none => rw [hc] at h; cases h
    | some d =>
      cases hrest : rest.mapM Text.decimalValue? with
      | none => rw [hc, hrest] at h; cases h
      | some more =>
        rw [hc, hrest] at h
        cases h
        obtain ⟨hdecimal, hlength, hlt⟩ := ih hrest
        have hd := Text.decimalValue?_le hc
        refine ⟨?_, by simp [hlength], ?_⟩
        · rintro e (_ | ⟨_, he⟩)
          · rw [Text.isDecimal, hc, Option.isSome_some]
          · exact hdecimal e he
        · rintro e (_ | ⟨_, he⟩)
          · omega
          · exact hlt e he

/-- What was read are the digits of the word, and they are no more than are converted. -/
lemma exists_digits_of_read {word : Text} {n : Nat} (h : read word = .ok n) :
    ∃ digits, word.mapM Text.decimalValue? = some digits ∧ ofDigits digits = n ∧
      digits.length ≤ digitLimit := by
  unfold read at h
  by_cases hlimit : digitLimit < (word.takeWhile Text.isDecimal).length
  · rw [if_pos hlimit] at h
    contradiction
  · rw [if_neg hlimit] at h
    cases hdigits : word.mapM Text.decimalValue? with
    | none => rw [hdigits] at h; contradiction
    | some digits =>
      rw [hdigits] at h
      obtain ⟨hdecimal, hlength, -⟩ := of_mapM_decimalValue? hdigits
      rw [List.takeWhile_eq_self_iff.2 hdecimal, ← hlength] at hlimit
      exact ⟨digits, rfl, Except.ok.inj h, Nat.le_of_not_lt hlimit⟩

/-- A number that was read has no more digits than are converted. -/
lemma readable_of_read_eq_ok {word : Text} {n : Nat} (h : read word = .ok n) : Readable n := by
  obtain ⟨digits, hdigits, rfl, hlimit⟩ := exists_digits_of_read h
  rw [readable_natCast]
  calc ofDigits digits
      < 10 ^ digits.length := ofDigits_lt (of_mapM_decimalValue? hdigits).2.2
    _ ≤ 10 ^ digitLimit := Nat.pow_le_pow_right (by decide) hlimit

end Number

/-! ## Parts of a line -/

/-- What the role of a line was read from. -/
lemma read_of_role (line : Text) :
    match Role.ofLine line with
    | .file paths => Text.after? fileLead line = some paths
    | .hunk header => HunkHeader.ofLine? line = some header
    | .extended field => Attribute.ofLine? line = some field
    | .noise | .content => True := by
  rw [Role.ofLine]
  cases hfile : Text.after? fileLead line with
  | some paths => rfl
  | none =>
    by_cases hlooks : "@@".toList.isPrefixOf line = true
    · simp only [hlooks, if_true]
      cases hheader : HunkHeader.ofLine? line <;> trivial
    · simp only [hlooks, Bool.false_eq_true, if_false]
      cases hfield : Attribute.ofLine? line <;> trivial

lemma Range.numeral?_subset {text digits rest : Text} (h : numeral? text = some (digits, rest)) :
    rest ⊆ text := by
  unfold numeral? at h
  split at h
  · cases h
  · cases h
    exact (List.dropWhile_sublist _).subset

lemma Range.read?_subset {text rest : Text} {range : Range}
    (h : read? text = some (range, rest)) : rest ⊆ text := by
  unfold read? at h
  cases hstart : numeral? text with
  | none => rw [hstart] at h; cases h
  | some start =>
    obtain ⟨digits, afterStart⟩ := start
    rw [hstart] at h
    cases hcomma : Text.after? [','] afterStart with
    | none =>
      simp only [Option.bind_eq_bind, Option.bind_some, hcomma] at h
      cases h
      exact numeral?_subset hstart
    | some afterComma =>
      simp only [Option.bind_eq_bind, Option.bind_some, hcomma] at h
      cases hcount : numeral? afterComma with
      | none => rw [hcount] at h; cases h
      | some count =>
        obtain ⟨digits', afterCount⟩ := count
        rw [hcount] at h
        cases h
        calc afterCount ⊆ afterComma := numeral?_subset hcount
          _ ⊆ afterStart := Text.after?_subset hcomma
          _ ⊆ text := numeral?_subset hstart

lemma HunkHeader.heading_subset {line : Text} {header : HunkHeader}
    (h : ofLine? line = some header) : header.heading ⊆ line := by
  unfold ofLine? at h
  simp only [Option.bind_eq_bind, Option.bind_eq_some_iff, Prod.exists, Option.pure_def,
    Option.some.injEq] at h
  obtain ⟨rest, hrest, old, afterOld, hold, plus, hplus, new, afterNew, hnew, heading, hheading,
    rfl⟩ := h
  calc heading ⊆ afterNew := Text.after?_subset hheading
    _ ⊆ plus := Range.read?_subset hnew
    _ ⊆ afterOld := Text.after?_subset hplus
    _ ⊆ rest := Range.read?_subset hold
    _ ⊆ line := Text.after?_subset hrest

namespace Attribute

/-- The texts that a line of the extended header states. -/
def texts : Attribute → List Text
  | newFileMode text | deletedFileMode text | oldMode text | newMode text => [text]
  | renameFrom text | renameTo text => [text]
  | similarity _ => []
  | index names mode => (names.elim [] fun (old, new) => [old, new]) ++ mode.toList

lemma subset_of_mem_texts_ofIndex {rest text : Text} (h : text ∈ (ofIndex rest).texts) :
    text ⊆ rest := by
  unfold ofIndex at h
  cases hsplit : rest.splitOn ' ' with
  | nil => exact absurd hsplit (List.splitOn_ne_nil _ _)
  | cons names more =>
    have hpiece : ∀ piece ∈ names :: more, piece ⊆ rest := by
      intro piece hp
      rw [← hsplit] at hp
      exact Text.subset_of_mem_splitOn hp
    rw [hsplit] at h
    rcases List.mem_append.1 h with h | h
    · cases hnames : contentNames names with
      | none => rw [hnames] at h; cases h
      | some pair =>
        obtain ⟨old, new⟩ := pair
        have hcut := (Text.cut_subset (Option.filter_eq_some_iff.1 hnames).1)
        rw [hnames] at h
        rcases List.mem_pair.1 h with rfl | rfl
        · exact List.Subset.trans hcut.1 (hpiece _ List.mem_cons_self)
        · exact List.Subset.trans hcut.2 (hpiece _ List.mem_cons_self)
    · rw [Option.mem_toList] at h
      exact hpiece _ (List.mem_cons_of_mem _ (List.mem_of_mem_head? h))

lemma subset_of_mem_texts {line text : Text} {field : Attribute} (h : ofLine? line = some field)
    (ht : text ∈ field.texts) : text ⊆ line := by
  simp only [ofLine?, Option.orElse_eq_orElse, Option.orElse_eq_or, Option.or_eq_some_iff,
    Option.map_eq_some_iff] at h
  rcases h with ⟨rest, hr, rfl⟩ | ⟨-, ⟨rest, hr, rfl⟩ | ⟨-, ⟨rest, hr, rfl⟩ | ⟨-, ⟨rest, hr, rfl⟩ |
    ⟨-, ⟨rest, hr, rfl⟩ | ⟨-, ⟨rest, hr, rfl⟩ | ⟨-, ⟨rest, hr, rfl⟩ | ⟨-, ⟨rest, hr, rfl⟩⟩⟩⟩⟩⟩⟩⟩
  iterate 4
    · obtain rfl := List.mem_singleton.1 ht
      exact List.Subset.trans (Text.afterLast_subset _ _) (Text.after?_subset hr)
  iterate 2
    · obtain rfl := List.mem_singleton.1 ht
      exact Text.after?_subset hr
  · cases ht
  · exact List.Subset.trans (subset_of_mem_texts_ofIndex ht) (Text.after?_subset hr)

end Attribute

/-! ## What the reader does to a file -/

lemma stripPathPrefix_subset (path : Text) : stripPathPrefix path ⊆ path := by
  unfold stripPathPrefix
  split
  · split
    · exact List.subset_cons_of_subset _ (List.subset_cons_self _ _)
    · exact List.Subset.refl _
  · exact List.Subset.refl _

lemma splitPaths_inPieces_subset (rest : Text) :
    (splitPaths.inPieces rest).1 ⊆ rest ∧ (splitPaths.inPieces rest).2 ⊆ rest := by
  have hpiece : ∀ piece ∈ rest.splitOn ' ', piece ⊆ rest :=
    fun piece hp => Text.subset_of_mem_splitOn hp
  unfold splitPaths.inPieces
  split
  · next source target hcut =>
    have heq := Text.cut_eq_append hcut
    refine ⟨(Text.cut_subset hcut).1, ?_⟩
    rw [heq, List.append_assoc]
    exact List.subset_append_of_subset_right _ (List.subset_cons_self _ _)
  · split
    · exact ⟨List.nil_subset _, List.nil_subset _⟩
    · next source hsplit => exact ⟨hpiece _ (by simp [hsplit]), List.nil_subset _⟩
    · next source target _ hsplit =>
      exact ⟨hpiece _ (by simp [hsplit]), hpiece _ (by simp [hsplit])⟩

lemma splitPaths_subset (rest : Text) :
    (splitPaths rest).1 ⊆ rest ∧ (splitPaths rest).2 ⊆ rest := by
  have hpiece : ∀ piece ∈ rest.splitOn ' ', piece ⊆ rest :=
    fun piece hp => Text.subset_of_mem_splitOn hp
  unfold splitPaths
  split
  · next source target hsplit =>
    split
    · exact ⟨hpiece _ (by simp [hsplit]), hpiece _ (by simp [hsplit])⟩
    · exact splitPaths_inPieces_subset rest
  · exact splitPaths_inPieces_subset rest

namespace File

variable {file file' : File} {line : Text}

lemma writable_opened {paths : Text} (h : '\n' ∉ paths) : (opened paths).Writable := by
  have hknown : ∀ {path : Text}, path ⊆ paths → ∀ known ∈ knownPath (stripPathPrefix path),
      '\n' ∉ known := by
    intro path hsub known hk
    unfold knownPath at hk
    split at hk
    · cases hk
    · cases hk
      exact fun hc => h (hsub (stripPathPrefix_subset path hc))
  obtain ⟨hsource, htarget⟩ := splitPaths_subset paths
  have hpath : '\n' ∉ ((opened paths).target <|> (opened paths).source).getD [] := by
    cases ht : (opened paths).target with
    | some target => exact hknown htarget target ht
    | none =>
      cases hs : (opened paths).source with
      | some source => exact hknown hsource source hs
      | none => exact List.not_mem_nil
  exact
    { path := hpath
      source := hknown hsource
      target := hknown htarget
      metadata :=
        { modes := by simp [opened]
          index := by simp [opened]
          similarity := by simp [opened] }
      hunks := by simp [opened] }

lemma Writable.withMetadata (h : file.Writable) {change : Metadata → Metadata}
    (hm : (change file.metadata).Writable) : (file.withMetadata change).Writable :=
  { h with metadata := hm }

lemma Writable.withKind (h : file.Writable) (kind : ChangeKind) :
    { file with kind }.Writable :=
  { h with }

lemma Writable.record (h : file.Writable) {field : Attribute}
    (ht : ∀ text ∈ field.texts, '\n' ∉ text) (hr : file.record field = .ok file') :
    file'.Writable := by
  have hm := (Metadata.writable_iff _).1 h.metadata
  cases field with
  | newFileMode mode | deletedFileMode mode =>
    cases hr
    refine (h.withMetadata ?_).withKind _
    simp_all [Metadata.writable_iff, Attribute.texts]
  | oldMode mode | newMode mode =>
    cases hr
    refine h.withMetadata ?_
    simp_all [Metadata.writable_iff, Attribute.texts]
  | renameFrom path =>
    cases hr
    exact { h with source := by simpa [Attribute.texts] using ht }
  | renameTo path =>
    cases hr
    have hpath : '\n' ∉ path := ht path List.mem_cons_self
    exact { h with target := by simpa using hpath, path := hpath }
  | similarity word =>
    simp only [File.record] at hr
    split at hr
    · cases hn : Number.read word with
      | error fault => rw [hn] at hr; contradiction
      | ok n =>
        rw [hn] at hr
        cases hr
        refine h.withMetadata { h.metadata with similarity := ?_ }
        rintro _ ⟨⟩
        exact Number.readable_of_read_eq_ok hn
    · cases hr
      exact h
  | index names mode =>
    cases hr
    refine h.withMetadata ?_
    cases names <;> cases mode <;> simp_all [Metadata.writable_iff, Attribute.texts]

lemma Writable.recordPaths (h : file.Writable) (hl : '\n' ∉ line) :
    (file.recordPaths line).Writable := by
  have hpath : ∀ {lead rest : Text}, Text.after? lead line = some rest →
      '\n' ∉ stripPathPrefix (pathBeforeTab rest) := by
    intro lead rest hrest hc
    have hbefore := stripPathPrefix_subset _ hc
    exact hl (Text.after?_subset hrest ((List.takeWhile_sublist _).subset hbefore))
  unfold File.recordPaths
  split
  · next rest hrest =>
    unfold nameSource
    split
    · split
      · exact h.withKind _
      · exact h
    · exact { h with source := by simpa using hpath hrest }
  · next rest _ hrest =>
    unfold nameTarget
    split
    · split
      · exact h.withKind _
      · exact h
    · exact { h with target := by simpa using hpath hrest, path := hpath hrest }
  · exact h

lemma Writable.closeHunk {hunk : Hunk} (h : file.Writable) (hh : hunk.inOrder.Writable) :
    (Place.closeHunk file hunk).Writable where
  path := h.path
  source := h.source
  target := h.target
  metadata := h.metadata
  hunks := by
    intro other ho
    rcases List.mem_append.1 ho with ho | ho
    · exact h.hunks other ho
    · rw [List.mem_singleton.1 ho]
      exact hh

end File

namespace Hunk

lemma writable_opened {line : Text} {header : HunkHeader} {hunk : Hunk}
    (hl : '\n' ∉ line) (hh : HunkHeader.ofLine? line = some header)
    (ho : header.opened line = .ok hunk) : hunk.Writable := by
  obtain ⟨_, _, _, _, hold, hnew, -, -, rfl⟩ := HunkHeader.opened_eq_ok ho
  exact
    { start_old := Number.readable_of_read_eq_ok hold
      start_new := Number.readable_of_read_eq_ok hnew
      heading := fun hc => hl (HunkHeader.heading_subset hh (Text.trim_subset _ hc))
      contents := by simp }

lemma Writable.snoc {hunk : Hunk} (h : hunk.Writable) {line : Text} (hl : '\n' ∉ line) :
    (hunk.snoc line).Writable := by
  have hcontent : ∀ numbers, (Line.ofMarked numbers line).content ⊆ line := by
    intro numbers
    unfold Line.ofMarked
    split
    · exact List.subset_cons_self _ _
    · exact List.subset_cons_self _ _
    · exact List.subset_cons_self _ _
    · exact List.Subset.refl _
  refine { h with contents := ?_ }
  intro other ho
  rcases List.mem_append.1 ho with ho | ho
  · exact h.contents other ho
  · rw [List.mem_singleton.1 ho]
    exact fun hc => hl (hcontent _ hc)

end Hunk

/-! ## The run of the reader -/

namespace Place

/-- Whether the file that the reader is in, with the hunk it is in, can be written. -/
def Writable (place : Place) : Prop :=
  ∀ file ∈ place.file?, file.Writable

variable {place place' : Place} {line : Text}

/-- One step of the reader takes in nothing but parts of the line. -/
lemma Writable.of_moves (hl : '\n' ∉ line) (h : place.Writable)
    (hm : Moves line (Role.ofLine line) place place') : place'.Writable := by
  have hread := read_of_role line
  revert hm hread
  generalize Role.ofLine line = role
  intro hm hread
  cases hm with
  | outside | noise | lineEndMark => exact h
  | openHunk hf ho =>
    rintro _ ⟨⟩
    refine (h _ hf).closeHunk ?_
    have hopened := Hunk.writable_opened hl hread ho
    exact
      { hopened with
        contents := fun line hline => hopened.contents line (List.mem_reverse.1 hline) }
  | record hf hr =>
    rintro _ ⟨⟩
    exact (h _ hf).record (fun text ht hc => hl (Attribute.subset_of_mem_texts hread ht hc)) hr
  | namePaths =>
    rintro _ ⟨⟩
    exact (h _ rfl).recordPaths hl
  | @push file current hmark =>
    rintro _ ⟨⟩
    have hclosed := h _ rfl
    have hcurrent : current.inOrder.Writable := hclosed.hunks _ (List.mem_append_right _ (.head _))
    have hfile : file.Writable :=
      { hclosed with hunks := fun hunk hh => hclosed.hunks hunk (List.mem_append_left _ hh) }
    refine hfile.closeHunk ?_
    rw [Hunk.inOrder_push]
    exact hcurrent.snoc hl

end Place

lemma writable_of_readFrom {place : Place} {lines : List Text} {files : List File}
    (hl : ∀ line ∈ lines, '\n' ∉ line) (hp : place.Writable)
    (h : readFrom place lines = .ok files) : ∀ file ∈ files, file.Writable := by
  induction lines generalizing place files with
  | nil =>
    cases h
    intro file hf
    exact hp file (by simpa using hf)
  | cons line rest ih =>
    have hline := hl line List.mem_cons_self
    have hrest : ∀ line ∈ rest, '\n' ∉ line := fun line hm => hl line (List.mem_cons_of_mem _ hm)
    rcases readFrom_cons_eq_ok h with ⟨paths, later, hrole, hread, rfl⟩ | ⟨place', hm, hread⟩
    · have hpaths := read_of_role line
      rw [hrole] at hpaths
      have hopened : (Place.header (File.opened paths)).Writable := by
        rintro _ ⟨⟩
        exact File.writable_opened fun hc => hline (Text.after?_subset hpaths hc)
      intro file hf
      rcases List.mem_append.1 hf with hf | hf
      · exact hp file (by simpa using hf)
      · exact ih hrest hopened hread file hf
    · exact ih hrest (hp.of_moves hline hm) hread

/-- Every file that was read can be written. -/
lemma writable_of_readDiff {text : Text} {files : List File} (h : readDiff text = .ok files) :
    ∀ file ∈ files, file.Writable := by
  refine writable_of_readFrom (fun _ hl => Text.not_mem_of_mem_lines hl) ?_ h
  rintro _ ⟨⟩

/-! ## What is left of a diff -/

lemma content_of_mem_asContext {last : Int} {numbers : List Int} {added : List Edit} {line : Line}
    (h : line ∈ asContext last numbers added) : ∃ edit ∈ added, line.content = edit.content := by
  induction added generalizing last numbers with
  | nil => cases numbers <;> cases h
  | cons edit rest ih =>
    have hcases : line.content = edit.content ∨
        ∃ last numbers, line ∈ asContext last numbers rest := by
      cases numbers with
      | nil =>
        rcases List.mem_cons.1 h with rfl | h
        · exact .inl rfl
        · exact .inr ⟨_, _, h⟩
      | cons number more =>
        rcases List.mem_cons.1 h with rfl | h
        · exact .inl rfl
        · exact .inr ⟨_, _, h⟩
    rcases hcases with hcontent | ⟨last, numbers, h⟩
    · exact ⟨edit, List.mem_cons_self, hcontent⟩
    · obtain ⟨other, ho, hcontent⟩ := ih h
      exact ⟨other, List.mem_cons_of_mem _ ho, hcontent⟩

namespace Flags

variable {flags : Flags}

lemma content_of_mem_stripEdit {edit : Edit} {line : Line} (h : line ∈ flags.stripEdit edit) :
    line.content = edit.content := by
  unfold stripEdit at h
  split at h
  · split at h
    · cases h
    · split at h
      · split at h
        · rw [List.mem_singleton.1 h]
          rfl
        · cases h
      · cases h
  · rw [List.mem_singleton.1 h, Edit.content_toLine]

lemma content_of_mem_stripBlock {block : Block} {line : Line}
    (h : line ∈ flags.stripBlock block) : ∃ edit ∈ block, line.content = edit.content := by
  unfold stripBlock Block.collapsed at h
  split at h
  · split at h
    · cases h
    · obtain ⟨edit, he, hcontent⟩ := content_of_mem_asContext h
      exact ⟨edit, (mem_added.1 he).1, hcontent⟩
  · obtain ⟨edit, he, hline⟩ := List.mem_flatMap.1 h
    exact ⟨edit, he, content_of_mem_stripEdit hline⟩

/-- Stripping makes no new contents. -/
lemma content_of_mem_stripLines {lines : List Line} {line : Line}
    (h : line ∈ flags.stripLines lines) : ∃ other ∈ lines, line.content = other.content := by
  obtain ⟨segment, hs, hline⟩ := List.mem_flatMap.1 h
  have hmem : ∀ other ∈ segment.toLines, other ∈ lines := by
    intro other ho
    rw [← Segment.flatMap_toLines_segmentsFrom 0 lines]
    exact List.mem_flatMap.2 ⟨segment, hs, ho⟩
  cases segment with
  | context content old new =>
    rw [List.mem_singleton.1 hline]
    exact ⟨_, hmem _ (.head _), rfl⟩
  | block edits =>
    obtain ⟨edit, he, hcontent⟩ := content_of_mem_stripBlock hline
    exact ⟨edit.toLine, hmem _ (List.mem_map_of_mem he), hcontent.trans edit.content_toLine.symm⟩

end Flags

lemma Hunk.Writable.withLines {hunk : Hunk} (h : hunk.Writable) {lines : List Line}
    (hl : ∀ line ∈ lines, ∃ other ∈ hunk.lines, line.content = other.content) :
    (hunk.withLines lines).Writable := by
  refine { h with contents := ?_ }
  intro line hline
  obtain ⟨other, ho, hcontent⟩ := hl line hline
  rw [hcontent]
  exact h.contents other ho

/-! ## What is left of a file -/

/-- The lines that are left of a hunk in the file at a path. -/
def Hunk.leftLines (config : Config) (passes : Text → Bool) (path : Text) (hunk : Hunk) :
    List Line :=
  if passes path then hunk.lines
  else (hunk.flags (hunk.findings config path)).stripLines hunk.lines

/-- The hunks that are left of a file. -/
def File.leftHunks (config : Config) (passes : Text → Bool) (file : File) : List Hunk :=
  (file.hunks.map fun hunk => hunk.withLines (hunk.leftLines config passes file.path)).filter
    Hunk.hasChanges

lemma File.files_sieve_eq (config : Config) (passes : Text → Bool) (file : File) :
    (file.sieve config passes).files = file.withHunks (file.leftHunks config passes) := by
  by_cases hp : passes file.path = true
  · have hsame : ∀ hunk : Hunk, hunk.withLines (hunk.leftLines config passes file.path) =
        hunk.recounted := by
      intro hunk
      rw [Hunk.leftLines, if_pos hp, Hunk.recounted]
    have hchanges : ∀ hunk : Hunk, hunk.recounted.hasChanges = hunk.hasChanges := fun _ => rfl
    rw [sieve, if_pos hp, passed, leftHunks]
    simp only [hsame, List.filter_map, Function.comp_def, hchanges]
  · have hstrip : ∀ hunk : Hunk, (hunk.sieve (hunk.findings config file.path)).hunk =
        Option.guard Hunk.hasChanges
          (hunk.withLines (hunk.leftLines config passes file.path)) := by
      intro hunk
      rw [Hunk.leftLines, if_neg hp]
      rfl
    rw [files_sieve (by simpa using hp), leftHunks]
    simp only [hstrip, ← List.filterMap_eq_filter, List.filterMap_map]
    rfl

/-- What is left of a file holds a hunk, and every hunk that it holds has a change. -/
lemma File.mem_files_sieve {config : Config} {passes : Text → Bool} {file left : File} :
    left ∈ (file.sieve config passes).files ↔
      left = { file with hunks := file.leftHunks config passes } ∧
        file.leftHunks config passes ≠ [] := by
  rw [files_sieve_eq]
  cases h : file.leftHunks config passes with
  | nil => simp [withHunks]
  | cons hunk more => simp [withHunks]

end DiffSieve
