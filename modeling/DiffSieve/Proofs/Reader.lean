import DiffSieve.Proofs.Numbering

/-!
# The run of the reader

The reader is a step function on places, and `readFrom` runs it over the lines that are left.
`Place.Moves` lists what one step can do, and `readFrom_cons_eq_ok` what the first line of a run
that succeeds does: it opens a file, and the one before it is handed over, or it moves the reader.
Everything that is said of a whole run is an induction over these two.

A property of hunks that every opened hunk has and that one more line keeps is a property of
every hunk that is read (`forall_hunk_of_readDiff`).  The first use of it is
`isCounted_of_readDiff`: whatever its header announced, a hunk that was read is numbered from its
starts and counts the lines it holds.
-/

namespace DiffSieve

/-! ## What opens a hunk, and what leaves hunks alone -/

namespace HunkHeader

/-- A hunk that was opened holds no line yet and says what the four numerals say. -/
lemma opened_eq_ok {line : Text} {header : HunkHeader} {hunk : Hunk}
    (h : header.opened line = .ok hunk) :
    ∃ oldStart newStart oldCount newCount : Nat,
      Number.read header.old.start = .ok oldStart ∧
      Number.read header.new.start = .ok newStart ∧
      declaredCount header.old = .ok oldCount ∧ declaredCount header.new = .ok newCount ∧
      hunk = { header := line, heading := Text.trim header.heading,
               start := ⟨oldStart, newStart⟩, count := ⟨0, 0⟩,
               declared := ⟨oldCount, newCount⟩, lines := [] } := by
  unfold opened at h
  simp only [bind, Except.bind, pure, Except.pure] at h
  split at h
  · contradiction
  next oldStart hos =>
  split at h
  · contradiction
  next newStart hns =>
  split at h
  · contradiction
  next oldCount hoc =>
  split at h
  · contradiction
  next newCount hnc =>
  exact ⟨oldStart, newStart, oldCount, newCount, hos, hns, hoc, hnc, (Except.ok.inj h).symm⟩

lemma isCounted_opened {line : Text} {header : HunkHeader} {hunk : Hunk}
    (h : header.opened line = .ok hunk) : hunk.IsCounted := by
  obtain ⟨_, _, _, _, _, _, _, _, rfl⟩ := opened_eq_ok h
  exact ⟨numbered_nil _, rfl⟩

end HunkHeader

namespace File

lemma hunks_record {file file' : File} {field : Attribute} (h : file.record field = .ok file') :
    file'.hunks = file.hunks := by
  cases field with
  | similarity word =>
    simp only [record] at h
    split at h
    · cases hn : Number.read word with
      | error fault => rw [hn] at h; contradiction
      | ok n => rw [hn] at h; cases h; rfl
    · cases h; rfl
  | _ => cases h; rfl

lemma hunks_recordPaths (file : File) (line : Text) :
    (file.recordPaths line).hunks = file.hunks := by
  unfold recordPaths nameSource nameTarget
  repeat' split
  all_goals rfl

lemma hunks_opened (rest : Text) : (opened rest).hunks = [] := rfl

end File

/-! ## One step -/

namespace Place

/-- How a line that opens no file moves the reader.  Outside every file no line counts, and in a
file there are two kinds of lines that leave the reader where it is. -/
inductive Moves (line : Text) : Role → Place → Place → Prop where
  | outside {role : Role} (hr : ∀ paths, role ≠ .file paths) : Moves line role outside outside
  | noise {place : Place} : Moves line .noise place place
  | openHunk {place : Place} {file : File} {header : HunkHeader} {hunk : Hunk}
      (hf : place.file? = some file) (ho : header.opened line = .ok hunk) :
      Moves line (.hunk header) place (.hunk file hunk)
  | record {place : Place} {file file' : File} {field : Attribute}
      (hf : place.file? = some file) (hr : file.record field = .ok file') :
      Moves line (.extended field) place (.header file')
  | namePaths {file : File} :
      Moves line .content (.header file) (.header (file.recordPaths line))
  | lineEndMark {file : File} {hunk : Hunk} (hl : line = noLineEndMark) :
      Moves line .content (.hunk file hunk) (.hunk file hunk)
  | push {file : File} {hunk : Hunk} (hl : line ≠ noLineEndMark) :
      Moves line .content (.hunk file hunk) (.hunk file (hunk.push line))

variable {place place' : Place} {line : Text} {role : Role}

lemma moves_of_step (hfile : ∀ paths, role ≠ .file paths)
    (hs : place.step line role = .ok place') : Moves line role place place' := by
  have houtside (hf : place.file? = none) : place = outside := by
    cases place with
    | outside => rfl
    | header | hunk => cases hf
  cases role with
  | file paths => exact absurd rfl (hfile paths)
  | noise =>
    cases hs
    exact .noise
  | hunk header =>
    simp only [step] at hs
    split at hs
    · next hf =>
      cases hs
      rw [houtside hf]
      exact .outside hfile
    · next file hf =>
      cases ho : header.opened line with
      | error fault => rw [ho] at hs; contradiction
      | ok hunk =>
        rw [ho] at hs
        cases hs
        exact .openHunk hf ho
  | extended field =>
    simp only [step] at hs
    split at hs
    · next hf =>
      cases hs
      rw [houtside hf]
      exact .outside hfile
    · next file hf =>
      cases hr : file.record field with
      | error fault => rw [hr] at hs; contradiction
      | ok file' =>
        rw [hr] at hs
        cases hs
        exact .record hf hr
  | content =>
    cases place with
    | outside =>
      cases hs
      exact .outside hfile
    | header file =>
      cases hs
      exact .namePaths
    | hunk file current =>
      cases hs
      by_cases hmark : line = noLineEndMark
      · rw [if_pos hmark]
        exact .lineEndMark hmark
      · rw [if_neg hmark]
        exact .push hmark

variable {Q : Hunk → Prop}

/-- Whether every hunk of the file that the reader is in, the one it is in included, satisfies
`Q`. -/
def AllHunks (Q : Hunk → Prop) (place : Place) : Prop :=
  ∀ file ∈ place.file?, ∀ hunk ∈ file.hunks, Q hunk

lemma allHunks_header {file : File} :
    (header file).AllHunks Q ↔ ∀ hunk ∈ file.hunks, Q hunk := by
  simp [AllHunks, file?]

lemma allHunks_hunk {file : File} {current : Hunk} :
    (hunk file current).AllHunks Q ↔ (∀ hunk ∈ file.hunks, Q hunk) ∧ Q current.inOrder := by
  simp [AllHunks, file?, closeHunk, Hunk.inOrder, or_imp, forall_and]

lemma AllHunks.mono {P : Hunk → Prop} (h : place.AllHunks P) (hkeep : ∀ hunk, P hunk → Q hunk) :
    place.AllHunks Q :=
  fun file hf hunk hh => hkeep hunk (h file hf hunk hh)

/-- One step of the reader: a hunk is opened, gets a line or is left alone. -/
lemma AllHunks.step {P : Hunk → Prop}
    (hopen : ∀ header hunk, role = .hunk header → header.opened line = .ok hunk → Q hunk)
    (hkeep : ∀ hunk, P hunk → Q hunk) (hsnoc : ∀ hunk text, P hunk → Q (hunk.snoc text))
    (h : place.AllHunks P) (hm : Moves line role place place') : place'.AllHunks Q := by
  cases hm with
  | outside | noise | lineEndMark => exact h.mono hkeep
  | @openHunk _ file header hunk hf ho =>
    have hopened := hopen header hunk rfl ho
    obtain ⟨_, _, _, _, _, _, _, _, rfl⟩ := HunkHeader.opened_eq_ok ho
    exact allHunks_hunk.2 ⟨h.mono hkeep file hf, hopened⟩
  | @record _ file _ _ hf hr =>
    rw [allHunks_header, File.hunks_record hr]
    exact h.mono hkeep file hf
  | namePaths =>
    rw [allHunks_header, File.hunks_recordPaths]
    exact allHunks_header.1 (h.mono hkeep)
  | push =>
    obtain ⟨hfile, hcurrent⟩ := allHunks_hunk.1 h
    refine allHunks_hunk.2 ⟨fun hunk hh => hkeep hunk (hfile hunk hh), ?_⟩
    rw [Hunk.inOrder_push]
    exact hsnoc _ _ hcurrent

lemma Moves.ne_file (hm : Moves line role place place') (paths : Text) : role ≠ .file paths := by
  cases hm with
  | outside hr => exact hr paths
  | noise | openHunk | record | namePaths | lineEndMark | push => simp

/-- A reader that is in a file stays in one. -/
lemma Moves.exists_file {file : File} (hm : Moves line role place place')
    (hp : place.file? = some file) : ∃ file', place'.file? = some file' := by
  cases hm with
  | outside | noise | lineEndMark => exact ⟨file, hp⟩
  | openHunk | record | namePaths | push => exact ⟨_, rfl⟩

/-- A header line that a reader in a file passed was accepted. -/
lemma Moves.exists_opened {file : File} {header : HunkHeader}
    (hm : Moves line (.hunk header) place place') (hp : place.file? = some file) :
    ∃ hunk, header.opened line = .ok hunk := by
  cases hm with
  | outside => cases hp
  | openHunk hf ho => exact ⟨_, ho⟩

end Place

/-! ## A whole run -/

lemma readFrom_cons_of_file {line rest : Text} {lines : List Text} (place : Place)
    (h : Role.ofLine line = .file rest) :
    readFrom place (line :: lines) =
      (readFrom (.header (File.opened rest)) lines).map (place.file?.toList ++ ·) := by
  rw [readFrom, h]

lemma readFrom_cons_of_step {line : Text} {lines : List Text} (place : Place)
    (h : ∀ rest, Role.ofLine line ≠ .file rest) :
    readFrom place (line :: lines) =
      (place.step line (Role.ofLine line)).bind fun place' => readFrom place' lines := by
  rw [readFrom]
  split
  · next rest hr => exact absurd hr (h rest)
  · rfl

/-- The first of the lines that are left either opens a file or moves the reader. -/
lemma readFrom_cons_eq_ok {place : Place} {line : Text} {lines : List Text} {files : List File}
    (h : readFrom place (line :: lines) = .ok files) :
    (∃ paths later, Role.ofLine line = .file paths ∧
      readFrom (.header (File.opened paths)) lines = .ok later ∧
      files = place.file?.toList ++ later) ∨
    ∃ place', Place.Moves line (Role.ofLine line) place place' ∧
      readFrom place' lines = .ok files := by
  by_cases hfile : ∃ paths, Role.ofLine line = .file paths
  · obtain ⟨paths, hr⟩ := hfile
    rw [readFrom_cons_of_file place hr] at h
    cases hrest : readFrom (.header (File.opened paths)) lines with
    | error fault => rw [hrest] at h; contradiction
    | ok later =>
      rw [hrest] at h
      exact .inl ⟨paths, later, hr, hrest, (Except.ok.inj h).symm⟩
  · have hrole : ∀ paths, Role.ofLine line ≠ .file paths := fun paths hr => hfile ⟨paths, hr⟩
    rw [readFrom_cons_of_step place hrole] at h
    cases hstep : place.step line (Role.ofLine line) with
    | error fault => rw [hstep] at h; contradiction
    | ok place' =>
      rw [hstep] at h
      exact .inr ⟨place', Place.moves_of_step hrole hstep, h⟩

variable {Q : Hunk → Prop}

lemma forall_hunk_of_readFrom
    (hopen : ∀ line header hunk, HunkHeader.opened line header = .ok hunk → Q hunk)
    (hsnoc : ∀ hunk text, Q hunk → Q (hunk.snoc text)) {place : Place} {lines : List Text}
    {files : List File} (hp : place.AllHunks Q) (h : readFrom place lines = .ok files) :
    ∀ file ∈ files, ∀ hunk ∈ file.hunks, Q hunk := by
  induction lines generalizing place files with
  | nil =>
    cases h
    intro file hf
    exact hp file (by simpa using hf)
  | cons line rest ih =>
    rcases readFrom_cons_eq_ok h with ⟨paths, later, -, hread, rfl⟩ | ⟨place', hm, hread⟩
    · have hlater : ∀ file ∈ later, ∀ hunk ∈ file.hunks, Q hunk :=
        ih (Place.allHunks_header.2 (by simp [File.hunks_opened])) hread
      intro file hf
      rcases List.mem_append.1 hf with hf | hf
      · exact hp file (by simpa using hf)
      · exact hlater file hf
    · have hopen' : ∀ header hunk, Role.ofLine line = .hunk header →
          header.opened line = .ok hunk → Q hunk := fun header hunk _ => hopen line header hunk
      exact ih (hp.step hopen' (fun _ hq => hq) hsnoc hm) hread

/-- A property that every opened hunk has and that one more line keeps holds of every hunk that
is read. -/
lemma forall_hunk_of_readDiff
    (hopen : ∀ line header hunk, HunkHeader.opened line header = .ok hunk → Q hunk)
    (hsnoc : ∀ hunk text, Q hunk → Q (hunk.snoc text)) {text : Text} {files : List File}
    (h : readDiff text = .ok files) : ∀ file ∈ files, ∀ hunk ∈ file.hunks, Q hunk :=
  forall_hunk_of_readFrom hopen hsnoc (fun _ hf => by simp [Place.file?] at hf) h

/-- A hunk that was read is numbered from its starts and counts the lines it holds. -/
lemma isCounted_of_readDiff {text : Text} {files : List File} (h : readDiff text = .ok files)
    {file : File} (hf : file ∈ files) {hunk : Hunk} (hh : hunk ∈ file.hunks) : hunk.IsCounted :=
  forall_hunk_of_readDiff (fun _ _ _ ho => HunkHeader.isCounted_opened ho)
    (fun _ text hc => hc.snoc text) h file hf hunk hh

/-- If the lines that are left can be read, every header line of a hunk among them is accepted. -/
lemma opened_of_readFrom {place : Place} {file : File} {lines : List Text} {files : List File}
    (hp : place.file? = some file) (h : readFrom place lines = .ok files) {line : Text}
    (hl : line ∈ lines) {header : HunkHeader} (hr : Role.ofLine line = .hunk header) :
    ∃ hunk, header.opened line = .ok hunk := by
  induction lines generalizing place file files with
  | nil => cases hl
  | cons first rest ih =>
    rcases readFrom_cons_eq_ok h with ⟨paths, later, hrole, hread, -⟩ | ⟨place', hm, hread⟩
    · rcases List.mem_cons.1 hl with rfl | hl
      · rw [hrole] at hr
        contradiction
      · exact ih rfl hread hl
    · rcases List.mem_cons.1 hl with rfl | hl
      · rw [hr] at hm
        exact hm.exists_opened hp
      · obtain ⟨file', hp'⟩ := hm.exists_file hp
        exact ih hp' hread hl

/-! ## A small diff

A text with two blocks: in the first only the spaces of a line differ, and in the second a comment
line is removed at the head and another one added at the end. -/

def sampleText : Text :=
  ["diff --git a/x.ts b/x.ts", "@@ -1,4 +1,4 @@", "-a = 1", "+a  = 1", " c", "-# old", "-x", "+y",
    "+# new"].flatMap fun line => line.toList ++ ['\n']

def sampleHunk : Hunk where
  header := "@@ -1,4 +1,4 @@".toList
  heading := []
  start := ⟨1, 1⟩
  count := ⟨4, 4⟩
  declared := ⟨4, 4⟩
  lines :=
    [.removed "a = 1".toList 1, .added "a  = 1".toList 1, .context ['c'] 2 2,
      .removed "# old".toList 3, .removed ['x'] 4, .added ['y'] 3, .added "# new".toList 4]

def sampleFile : File where
  path := "x.ts".toList
  source := some "x.ts".toList
  target := some "x.ts".toList
  kind := .modify
  metadata := {}
  hunks := [sampleHunk]

lemma readDiff_sampleText : readDiff sampleText = .ok [sampleFile] := by rfl

end DiffSieve
