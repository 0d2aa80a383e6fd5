import DiffSieve.Proofs.Edits
import DiffSieve.Proofs.Reader
import Mathlib.Data.List.Forall2

/-!
# What is read, said without the reader

The reader goes from line to line and from place to place.  What it finds can be said without
places: the lines of a diff fall into sections, each opened by a line that opens a file; the lines
of a section fall into sections again, each opened by the header line of a hunk; and a hunk holds
the lines of its section up to the first line of an extended header, those left out that look like a
header and the marks of a missing line end.  `sections` is that division, by any kind of opening
line, and `heldLines` what a hunk holds of its section.

`Place.Completes` says which file will have been read when the section that the reader is in ends.
A step of the reader takes one line off the rest of the section and keeps the answer
(`Completes.of_moves`), and the main result is an induction over the lines.
-/

namespace DiffSieve

/-! ## Sections -/

/-- The items that satisfy `opens`, each with the items after it up to the next one that does. -/
def sections {α : Type} (opens : α → Bool) : List α → List (α × List α)
  | [] => []
  | item :: rest =>
    if opens item then (item, rest.takeWhile (!opens ·)) :: sections opens rest
    else sections opens rest

/-- Whether a line opens a file. -/
def opensFile (line : Text) : Bool :=
  fileLead.isPrefixOf line

/-- Whether a line is the header of a hunk. -/
def opensHunk (line : Text) : Bool :=
  (HunkHeader.ofLine? line).isSome

/-- The words that a line of an extended header opens with. -/
def attributeLeads : List Text :=
  ["new file mode ", "deleted file mode ", "old mode ", "new mode ", "rename from ", "rename to ",
    "similarity index ", "index "].map String.toList

/-- Whether a line belongs to an extended header. -/
def isAttributeLine (line : Text) : Bool :=
  Text.opensWithAny attributeLeads line

/-- Whether a line begins like the header of a hunk. -/
def looksLikeHeader (line : Text) : Bool :=
  "@@".toList.isPrefixOf line

/-- The lines that a hunk holds, given the lines of its section after the header line. -/
def heldLines (following : List Text) : List Text :=
  (following.takeWhile (!isAttributeLine ·)).filter fun line =>
    !looksLikeHeader line && line != noLineEndMark

/-- The mark and the content of a line that a hunk holds.  Without a mark the whole line is content
of both versions. -/
def splitMark : Text → Char × Text
  | '+' :: content => ('+', content)
  | '-' :: content => ('-', content)
  | ' ' :: content => (' ', content)
  | content => (' ', content)

variable {α : Type} {opens : α → Bool} {item : α} {rest : List α}

lemma sections_cons_of_opens (h : opens item = true) :
    sections opens (item :: rest) = (item, rest.takeWhile (!opens ·)) :: sections opens rest := by
  rw [sections, if_pos h]

lemma sections_cons_of_not_opens (h : opens item = false) :
    sections opens (item :: rest) = sections opens rest := by
  rw [sections, if_neg (by simp [h])]

/-! ## The lines that open something, by their roles -/

lemma Text.isSome_after? (lead text : Text) :
    (Text.after? lead text).isSome = lead.isPrefixOf text := by
  unfold Text.after?
  cases lead.isPrefixOf text <;> rfl

lemma Attribute.isSome_ofLine? (line : Text) :
    (Attribute.ofLine? line).isSome = isAttributeLine line := by
  simp only [Attribute.ofLine?, Option.orElse_eq_orElse, Option.orElse_eq_or, Option.isSome_or,
    Option.isSome_map, Text.isSome_after?, isAttributeLine, Text.opensWithAny, attributeLeads,
    List.map_cons, List.map_nil, List.any_cons, List.any_nil, Bool.or_false]

lemma looksLikeHeader_of_opensHunk {line : Text} (h : opensHunk line = true) :
    looksLikeHeader line = true := by
  obtain ⟨header, hh⟩ := Option.isSome_iff_exists.1 h
  unfold HunkHeader.ofLine? at hh
  cases hafter : Text.after? "@@ -".toList line with
  | none => rw [hafter] at hh; cases hh
  | some rest =>
    obtain rfl := Text.after?_eq_some_iff.1 hafter
    rfl

lemma isAttributeLine_of_looksLikeHeader {line : Text} (h : looksLikeHeader line = true) :
    isAttributeLine line = false := by
  obtain ⟨rest, rfl⟩ := List.isPrefixOf_iff_prefix.1 h
  rfl

/-- What the role of a line says about what the line opens. -/
lemma opens_of_role (line : Text) :
    match Role.ofLine line with
    | .file _ => opensFile line = true
    | .hunk header =>
      opensFile line = false ∧ opensHunk line = true ∧ HunkHeader.ofLine? line = some header
    | .noise => opensFile line = false ∧ opensHunk line = false ∧ looksLikeHeader line = true
    | .extended _ => opensFile line = false ∧ opensHunk line = false ∧ isAttributeLine line = true
    | .content =>
      opensFile line = false ∧ opensHunk line = false ∧ looksLikeHeader line = false ∧
        isAttributeLine line = false := by
  have hfile := Text.isSome_after? fileLead line
  have hfield := Attribute.isSome_ofLine? line
  have hhunk : looksLikeHeader line = false → opensHunk line = false := by
    intro hlooks
    by_contra hopens
    rw [looksLikeHeader_of_opensHunk (by simpa using hopens)] at hlooks
    contradiction
  rw [Role.ofLine]
  cases hafter : Text.after? fileLead line with
  | some rest =>
    rw [hafter] at hfile
    exact hfile.symm
  | none =>
    rw [hafter] at hfile
    have hnot : opensFile line = false := hfile.symm
    by_cases hlooks : looksLikeHeader line = true
    · simp only [show "@@".toList.isPrefixOf line = true from hlooks, if_true]
      cases hheader : HunkHeader.ofLine? line with
      | some header => exact ⟨hnot, by simp [opensHunk, hheader], rfl⟩
      | none => exact ⟨hnot, by simp [opensHunk, hheader], hlooks⟩
    · have hlooks' : looksLikeHeader line = false := by simpa using hlooks
      simp only [show "@@".toList.isPrefixOf line = false from hlooks', Bool.false_eq_true,
        if_false]
      cases hline : Attribute.ofLine? line with
      | some field =>
        rw [hline] at hfield
        exact ⟨hnot, hhunk hlooks', hfield.symm⟩
      | none =>
        rw [hline] at hfield
        exact ⟨hnot, hhunk hlooks', hlooks', hfield.symm⟩

lemma role_of_fileLead {line : Text} (h : fileLead <+: line) :
    ∃ paths, Role.ofLine line = .file paths := by
  obtain ⟨paths, rfl⟩ := h
  exact ⟨paths, by rw [Role.ofLine, Text.after?_append]⟩

lemma opensFile_eq_false {line : Text} (h : ∀ paths, Role.ofLine line ≠ .file paths) :
    opensFile line = false := by
  rw [opensFile, ← Text.isSome_after?]
  cases hafter : Text.after? fileLead line with
  | none => rfl
  | some paths => exact absurd (by rw [Role.ofLine, hafter]) (h paths)

/-! ## What a hunk is read from -/

lemma Line.mark_content_ofMarked (numbers : Sides Int) (text : Text) :
    ((ofMarked numbers text).mark, (ofMarked numbers text).content) = splitMark text := by
  unfold ofMarked
  split <;> try rfl
  rw [splitMark]
  · rfl
  all_goals assumption

namespace Hunk

/-- Whether a hunk is what its header line and the lines after it in its section say. -/
structure IsReadFrom (hunk : Hunk) (group : Text × List Text) : Prop where
  header : hunk.header = group.1
  start : ∃ header oldStart newStart, HunkHeader.ofLine? group.1 = some header ∧
    Number.read header.old.start = .ok oldStart ∧ Number.read header.new.start = .ok newStart ∧
    hunk.start = ⟨oldStart, newStart⟩
  lines : hunk.lines.map (fun line => (line.mark, line.content)) =
    (heldLines group.2).map splitMark
  number : ∀ (i : Nat) line, hunk.lines[i]? = some line → ∀ side, ∀ n ∈ line.numberIn side,
    n = hunk.start.at side + (hunk.lines.take i).countP (Line.standsIn side)
  count : hunk.count = hunk.tally

lemma foldl_snoc_fixed (texts : List Text) (hunk : Hunk) :
    (texts.foldl snoc hunk).header = hunk.header ∧ (texts.foldl snoc hunk).start = hunk.start := by
  induction texts generalizing hunk with
  | nil => exact ⟨rfl, rfl⟩
  | cons text rest ih => exact ih (hunk.snoc text)

lemma map_lines_foldl_snoc (texts : List Text) (hunk : Hunk) :
    (texts.foldl snoc hunk).lines.map (fun line => (line.mark, line.content)) =
      hunk.lines.map (fun line => (line.mark, line.content)) ++ texts.map splitMark := by
  induction texts generalizing hunk with
  | nil => simp
  | cons text rest ih =>
    have hsnoc : (hunk.snoc text).lines.map (fun line => (line.mark, line.content)) =
        hunk.lines.map (fun line => (line.mark, line.content)) ++ [splitMark text] := by
      rw [snoc, List.map_append, List.map_singleton, Line.mark_content_ofMarked]
    rw [List.foldl_cons, ih, hsnoc, List.append_assoc, List.map_cons, List.singleton_append]

lemma isCounted_foldl_snoc {hunk : Hunk} (h : hunk.IsCounted) (texts : List Text) :
    (texts.foldl snoc hunk).IsCounted := by
  induction texts generalizing hunk with
  | nil => exact h
  | cons text rest ih => exact ih (h.snoc text)

lemma inOrder_opened {line : Text} {header : HunkHeader} {hunk : Hunk}
    (h : header.opened line = .ok hunk) : hunk.inOrder = hunk := by
  obtain ⟨_, _, _, _, _, _, _, _, rfl⟩ := HunkHeader.opened_eq_ok h
  rfl

/-- An opened hunk that takes the lines it holds one after the other is read from its section. -/
lemma isReadFrom_foldl_snoc {line : Text} {header : HunkHeader} {hunk : Hunk}
    (hl : HunkHeader.ofLine? line = some header) (ho : header.opened line = .ok hunk)
    (following : List Text) :
    ((heldLines following).foldl snoc hunk).IsReadFrom (line, following) := by
  obtain ⟨hheader, hstart⟩ := foldl_snoc_fixed (heldLines following) hunk
  have hcounted := isCounted_foldl_snoc (HunkHeader.isCounted_opened ho) (heldLines following)
  have hlines := map_lines_foldl_snoc (heldLines following) hunk
  obtain ⟨oldStart, newStart, _, _, hold, hnew, -, -, rfl⟩ := HunkHeader.opened_eq_ok ho
  exact
    { header := hheader
      start := ⟨header, oldStart, newStart, hl, hold, hnew, hstart⟩
      lines := hlines
      number := fun _ _ hline _ _ hn => hcounted.numbered.eq_of_mem_numberIn hline hn
      count := hcounted.count_eq }

end Hunk

/-! ## The rest of a section -/

namespace Place

/-- The file that will have been read when the rest of the section that the reader is in has been
read. -/
inductive Completes : Place → List Text → Option File → Prop where
  | outside {rest : List Text} : Completes outside rest none
  | header {file file' : File} {hunks : List Hunk} {rest : List Text}
      (hf : file'.hunks = file.hunks ++ hunks)
      (hr : List.Forall₂ Hunk.IsReadFrom hunks (sections opensHunk rest)) :
      Completes (header file) rest (some file')
  | hunk {file file' : File} {current : Hunk} {hunks : List Hunk} {rest : List Text}
      (hf : file'.hunks = file.hunks ++
        (heldLines (rest.takeWhile (!opensHunk ·))).foldl Hunk.snoc current.inOrder :: hunks)
      (hr : List.Forall₂ Hunk.IsReadFrom hunks (sections opensHunk rest)) :
      Completes (hunk file current) rest (some file')

lemma completes_nil (place : Place) : place.Completes [] place.file? := by
  cases place with
  | outside => exact .outside
  | header file => exact .header (List.append_nil _).symm .nil
  | hunk file current => exact .hunk rfl .nil

variable {place place' : Place} {line : Text} {rest : List Text} {read : Option File}

/-- Where the last hunk takes no line of the rest of the section, only the header lines of hunks in
it matter. -/
lemma Completes.of_file {file file' : File} {hunks : List Hunk} (hp : place.file? = some file)
    (hf : file'.hunks = file.hunks ++ hunks)
    (hheld : heldLines (rest.takeWhile (!opensHunk ·)) = [])
    (hr : List.Forall₂ Hunk.IsReadFrom hunks (sections opensHunk rest)) :
    place.Completes rest (some file') := by
  cases place with
  | outside => cases hp
  | header current =>
    obtain rfl := Option.some.inj hp
    exact .header hf hr
  | hunk current last =>
    obtain rfl := Option.some.inj hp
    refine .hunk ?_ hr
    rw [hf, hheld]
    exact List.append_assoc _ _ _

/-- A line that opens no hunk and is not held by one does not matter. -/
lemma Completes.skip (hopens : opensHunk line = false) (hattribute : isAttributeLine line = false)
    (hheld : (!looksLikeHeader line && line != noLineEndMark) = false)
    (hc : place.Completes rest read) : place.Completes (line :: rest) read := by
  have hsections : sections opensHunk (line :: rest) = sections opensHunk rest :=
    sections_cons_of_not_opens hopens
  cases hc with
  | outside => exact .outside
  | header hf hr => exact .header hf (hsections ▸ hr)
  | hunk hf hr =>
    refine .hunk ?_ (hsections ▸ hr)
    rw [hf, List.takeWhile_cons_of_pos (by simp [hopens]), heldLines, heldLines,
      List.takeWhile_cons_of_pos (by simp [hattribute]), List.filter_cons_of_neg (by simp [hheld])]

/-- One step of the reader takes one line off the rest of the section. -/
lemma Completes.of_moves (hm : Moves line (Role.ofLine line) place place')
    (hc : place'.Completes rest read) : place.Completes (line :: rest) read := by
  have hopens := opens_of_role line
  revert hm hopens
  generalize Role.ofLine line = role
  intro hm hopens
  cases hm with
  | outside =>
    cases hc
    exact .outside
  | noise =>
    obtain ⟨-, hhunk, hlooks⟩ := hopens
    exact hc.skip hhunk (isAttributeLine_of_looksLikeHeader hlooks) (by simp [hlooks])
  | openHunk hf ho =>
    obtain ⟨-, hhunk, hline⟩ := hopens
    cases hc with
    | hunk hread hr =>
      refine .of_file hf hread ?_ ?_
      · rw [List.takeWhile_cons_of_neg (by simp [hhunk])]
        rfl
      · rw [sections_cons_of_opens hhunk]
        rw [Hunk.inOrder_opened ho]
        exact .cons (Hunk.isReadFrom_foldl_snoc hline ho _) hr
  | record hf hrecord =>
    obtain ⟨-, hhunk, hattribute⟩ := hopens
    cases hc with
    | header hread hr =>
      refine .of_file hf (File.hunks_record hrecord ▸ hread) ?_ ?_
      · rw [List.takeWhile_cons_of_pos (by simp [hhunk]), heldLines,
          List.takeWhile_cons_of_neg (by simp [hattribute])]
        rfl
      · rw [sections_cons_of_not_opens hhunk]
        exact hr
  | namePaths =>
    obtain ⟨-, hhunk, -⟩ := hopens
    cases hc with
    | header hread hr =>
      refine .header (File.hunks_recordPaths _ line ▸ hread) ?_
      rw [sections_cons_of_not_opens hhunk]
      exact hr
  | lineEndMark hl =>
    obtain ⟨-, hhunk, -, hattribute⟩ := hopens
    exact hc.skip hhunk hattribute (by simp [hl])
  | push hl =>
    obtain ⟨-, hhunk, hlooks, hattribute⟩ := hopens
    cases hc with
    | hunk hread hr =>
      refine .hunk ?_ (by rw [sections_cons_of_not_opens hhunk]; exact hr)
      rw [hread, List.takeWhile_cons_of_pos (by simp [hhunk]), heldLines, heldLines,
        List.takeWhile_cons_of_pos (by simp [hattribute]),
        List.filter_cons_of_pos (by simp [hlooks, hl]), List.foldl_cons, Hunk.inOrder_push]

end Place

/-! ## The whole diff -/

/-- The file that the reader is in is completed by the rest of its section, and the sections after
it are read file by file. -/
lemma exists_completes_of_readFrom {place : Place} {lines : List Text} {files : List File}
    (h : readFrom place lines = .ok files) :
    ∃ current later, files = Option.toList current ++ later ∧
      place.Completes (lines.takeWhile (!opensFile ·)) current ∧
      List.Forall₂ (fun file group =>
        List.Forall₂ Hunk.IsReadFrom file.hunks (sections opensHunk group.2))
        later (sections opensFile lines) := by
  induction lines generalizing place files with
  | nil =>
    cases h
    exact ⟨place.file?, [], (List.append_nil _).symm, place.completes_nil, .nil⟩
  | cons line rest ih =>
    have hopens := opens_of_role line
    rcases readFrom_cons_eq_ok h with ⟨paths, later, hrole, hread, rfl⟩ | ⟨place', hm, hread⟩
    · rw [hrole] at hopens
      obtain ⟨current, later, rfl, hcurrent, hlater⟩ := ih hread
      have hnil : (line :: rest).takeWhile (!opensFile ·) = [] :=
        List.takeWhile_cons_of_neg (by simp [hopens])
      refine ⟨place.file?, _, rfl, hnil ▸ place.completes_nil, ?_⟩
      rw [sections_cons_of_opens hopens]
      cases hcurrent with
      | header hf hr => exact .cons (hf ▸ hr) hlater
    · have hfile : opensFile line = false := opensFile_eq_false hm.ne_file
      obtain ⟨current, later, rfl, hcurrent, hlater⟩ := ih hread
      refine ⟨current, later, rfl, ?_, ?_⟩
      · rw [List.takeWhile_cons_of_pos (by simp [hfile])]
        exact hcurrent.of_moves hm
      · rw [sections_cons_of_not_opens hfile]
        exact hlater

/-- A diff that was read holds a file for each line that opens one, in each of them a hunk for each
header line of a hunk in the section of the file, and in each of these the lines of its section up
to the extended header, numbered by the lines before them. -/
theorem files_are_the_sections {text : Text} {files : List File} (h : readDiff text = .ok files) :
    List.Forall₂ (fun file group =>
      List.Forall₂ Hunk.IsReadFrom file.hunks (sections opensHunk group.2))
      files (sections opensFile (Text.lines text)) := by
  obtain ⟨current, later, rfl, hcurrent, hlater⟩ := exists_completes_of_readFrom h
  cases hcurrent with
  | outside => exact hlater

/-! A text in which lines stand where nothing reads them: a header line before every file, a line
that only looks like one, a mark of a missing line end, lines without a mark, and a line of the
extended header that ends a hunk. -/

def tangledText : Text :=
  ["before", "@@ -1 +1 @@", "diff --git a/x.ts b/x.ts", "@@ -3,9 +3 @@ f()", "-a", "@@ none",
    "+b", "\\ No newline at end of file", "c", "", "new mode 755", "+lost", "@@ -9 +7 @@", "+--- d",
    "diff --git a/y b/y"].flatMap fun line => line.toList ++ ['\n']

def tangledFiles : List File :=
  [{ path := "x.ts".toList
     source := some "x.ts".toList
     target := some "x.ts".toList
     kind := .modify
     metadata := { newMode := some "755".toList }
     hunks :=
      [{ header := "@@ -3,9 +3 @@ f()".toList
         heading := "f()".toList
         start := ⟨3, 3⟩
         count := ⟨3, 3⟩
         declared := ⟨9, 1⟩
         lines :=
          [.removed ['a'] 3, .added ['b'] 3, .context ['c'] 4 4, .context [] 5 5] },
        { header := "@@ -9 +7 @@".toList
          heading := []
          start := ⟨9, 7⟩
          count := ⟨0, 1⟩
          declared := ⟨1, 1⟩
          lines := [.added "--- d".toList 7] }] },
    { path := ['y'], source := some ['y'], target := some ['y'], kind := .modify, metadata := {},
      hunks := [] }]

/-- Both files of the text are its sections, the first with two hunks and the second without one. -/
theorem sections_of_tangledText :
    readDiff tangledText = .ok tangledFiles ∧
      List.Forall₂ (fun file group =>
        List.Forall₂ Hunk.IsReadFrom file.hunks (sections opensHunk group.2))
        tangledFiles (sections opensFile (Text.lines tangledText)) := by
  have hread : readDiff tangledText = .ok tangledFiles := by rfl
  exact ⟨hread, files_are_the_sections hread⟩

end DiffSieve
