import DiffSieve.Proofs.Joining
import DiffSieve.Proofs.Success

/-!
# Lines without bearing

Not everything in a diff counts.  A mark of a missing line end and a line that only looks like the
header of a hunk say nothing wherever they stand, and of a header that is one only the two starts
and the heading count, not the way they are written and not the counts.  `bearings` is what is left
of the lines of a text: two texts with the same bearings, both of which can be read, hold the same
files up to the header lines and the counts in them.

The two runs of the reader are compared after `unannounced` took that from every hunk.  A line that
counts as it stands moves both readers alike (`Place.step_unannounced`), one without bearing moves
none (`readFrom_append_of_idle`), and two headers with the same bearing open the same hunk
(`HunkHeader.unannounced_opened`).  Everything after reading only looks at the lines of a hunk, its
starts and its heading, so it does the same before and after `unannounced`.
-/

namespace DiffSieve

/-! ## What a line contributes -/

/-- The number that a run of decimal digits spells, however many they are. -/
def Number.value? (word : Text) : Option Nat :=
  (word.mapM Text.decimalValue?).map ofDigits

/-- What a line of a diff contributes to what is read. -/
inductive Bearing where
  /-- It opens a hunk that starts at these numbers, under this heading. -/
  | hunk (start : Sides (Option Nat)) (heading : Text)
  /-- It counts as it stands. -/
  | line (text : Text)
  deriving DecidableEq

/-- What the header line of a hunk contributes. -/
def HunkHeader.bearing (header : HunkHeader) : Bearing :=
  .hunk ⟨Number.value? header.old.start, Number.value? header.new.start⟩ (Text.trim header.heading)

/-- What a line contributes, if it does. -/
def bearing? (line : Text) : Option Bearing :=
  match HunkHeader.ofLine? line with
  | some header => some header.bearing
  | none => if looksLikeHeader line || line == noLineEndMark then none else some (.line line)

/-- What the lines of a text contribute. -/
def bearings (text : Text) : List Bearing :=
  (Text.lines text).filterMap bearing?

lemma Number.value?_of_read {word : Text} {n : Nat} (h : read word = .ok n) :
    value? word = some n := by
  unfold read at h
  simp only at h
  split at h
  · contradiction
  · split at h
    · next digits hd =>
      rw [value?, hd]
      exact congrArg some (Except.ok.inj h)
    · contradiction

/-! ## What was announced, left aside -/

/-- The hunk without its header line and the counts in it. -/
def Hunk.unannounced (hunk : Hunk) : Hunk :=
  { hunk with header := [], declared := ⟨0, 0⟩ }

/-- The file without the header lines of its hunks and the counts in them. -/
def File.unannounced (file : File) : File :=
  { file with hunks := file.hunks.map Hunk.unannounced }

/-- The place without the header lines of hunks and the counts in them. -/
def Place.unannounced : Place → Place
  | outside => outside
  | header file => header file.unannounced
  | hunk file current => hunk file.unannounced current.unannounced

lemma Hunk.push_unannounced (hunk : Hunk) (line : Text) :
    hunk.unannounced.push line = (hunk.push line).unannounced := by
  unfold push
  split <;> rfl

namespace File

lemma record_unannounced (file : File) (field : Attribute) :
    file.unannounced.record field = (file.record field).map unannounced := by
  cases field with
  | similarity word =>
    simp only [record]
    split
    · cases Number.read word <;> rfl
    · rfl
  | _ => rfl

lemma recordPaths_unannounced (file : File) (line : Text) :
    file.unannounced.recordPaths line = (file.recordPaths line).unannounced := by
  have hkind : file.unannounced.kind = file.kind := rfl
  unfold recordPaths nameSource nameTarget
  rw [hkind]
  repeat' split
  all_goals rfl

end File

namespace Place

lemma file?_unannounced (place : Place) :
    place.unannounced.file? = place.file?.map File.unannounced := by
  cases place with
  | outside => rfl
  | header file => rfl
  | hunk file current =>
    show some (closeHunk _ _) = some _
    simp only [closeHunk, File.unannounced, List.map_append, List.map_singleton]
    rfl

/-- A line that opens neither a file nor a hunk moves the reader the same way whatever was
announced. -/
lemma step_unannounced (place : Place) (line : Text) {role : Role}
    (h : ∀ header, role ≠ .hunk header) :
    place.unannounced.step line role = (place.step line role).map unannounced := by
  cases role with
  | file | noise => rfl
  | hunk header => exact absurd rfl (h header)
  | extended field =>
    simp only [step, file?_unannounced]
    cases place.file? with
    | none => rfl
    | some file =>
      simp only [Option.map_some, File.record_unannounced]
      cases file.record field <;> rfl
  | content =>
    cases place with
    | outside => rfl
    | header file =>
      simp only [step, unannounced, File.recordPaths_unannounced]
      rfl
    | hunk file current =>
      simp only [step, unannounced, Hunk.push_unannounced]
      split <;> rfl

end Place

/-! ## Two runs of the reader -/

/-- Headers with the same bearing open the same hunk, up to what they announce. -/
lemma HunkHeader.unannounced_opened {line line' : Text} {header header' : HunkHeader}
    {hunk hunk' : Hunk} (hb : header.bearing = header'.bearing)
    (h : header.opened line = .ok hunk) (h' : header'.opened line' = .ok hunk') :
    hunk.unannounced = hunk'.unannounced := by
  obtain ⟨oldStart, newStart, _, _, hold, hnew, -, -, rfl⟩ := opened_eq_ok h
  obtain ⟨oldStart', newStart', _, _, hold', hnew', -, -, rfl⟩ := opened_eq_ok h'
  simp only [bearing, Bearing.hunk.injEq, Sides.mk.injEq, Number.value?_of_read hold,
    Number.value?_of_read hnew, Number.value?_of_read hold', Number.value?_of_read hnew',
    Option.some.injEq] at hb
  obtain ⟨⟨rfl, rfl⟩, hheading⟩ := hb
  simp only [Hunk.unannounced, hheading]

lemma opensFile_of_looksLikeHeader {line : Text} (h : looksLikeHeader line = true) :
    opensFile line = false := by
  obtain ⟨rest, rfl⟩ := List.isPrefixOf_iff_prefix.1 h
  rfl

lemma role_of_header {line : Text} {header : HunkHeader}
    (h : HunkHeader.ofLine? line = some header) : Role.ofLine line = .hunk header := by
  have hhunk : opensHunk line = true := by rw [opensHunk, h, Option.isSome_some]
  have hfile := opensFile_of_looksLikeHeader (looksLikeHeader_of_opensHunk hhunk)
  have hopens := opens_of_role line
  cases hrole : Role.ofLine line with
  | hunk header' =>
    rw [hrole] at hopens
    simp_all
  | _ =>
    rw [hrole] at hopens
    simp_all

lemma role_of_looksLikeHeader {line : Text} (hlooks : looksLikeHeader line = true)
    (hnot : HunkHeader.ofLine? line = none) : Role.ofLine line = .noise := by
  have hfile := opensFile_of_looksLikeHeader hlooks
  have hattribute := isAttributeLine_of_looksLikeHeader hlooks
  have hopens := opens_of_role line
  cases hrole : Role.ofLine line with
  | noise => rfl
  | _ =>
    rw [hrole] at hopens
    simp_all

/-- A line without bearing leaves the reader where it is. -/
lemma step_of_idle {line : Text} (h : bearing? line = none) (place : Place) :
    (∀ paths, Role.ofLine line ≠ .file paths) ∧
      place.step line (Role.ofLine line) = .ok place := by
  unfold bearing? at h
  cases hheader : HunkHeader.ofLine? line with
  | some header =>
    rw [hheader] at h
    contradiction
  | none =>
    by_cases hlooks : looksLikeHeader line = true
    · rw [role_of_looksLikeHeader hlooks hheader]
      exact ⟨by simp, rfl⟩
    · obtain rfl : line = noLineEndMark := by simpa [hheader, hlooks] using h
      have hrole : Role.ofLine noLineEndMark = .content := by rfl
      rw [hrole]
      refine ⟨by simp, ?_⟩
      cases place with
      | outside | header => rfl
      | hunk file current => exact congrArg (Except.ok <| Place.hunk file ·) (if_pos rfl)

lemma readFrom_append_of_idle {idle : List Text} (h : ∀ line ∈ idle, bearing? line = none)
    (place : Place) (lines : List Text) :
    readFrom place (idle ++ lines) = readFrom place lines := by
  induction idle with
  | nil => rfl
  | cons line rest ih =>
    obtain ⟨hrole, hstep⟩ := step_of_idle (h line (.head _)) place
    rw [List.cons_append, readFrom_cons_of_step place hrole, hstep]
    exact ih fun l hl => h l (.tail _ hl)

/-- Two lines with the same bearing are the same line, or both are headers of a hunk. -/
lemma eq_or_headers_of_bearing {line line' : Text} {bearing : Bearing}
    (h : bearing? line = some bearing) (h' : bearing? line' = some bearing) :
    (line = line' ∧ ∀ header, Role.ofLine line ≠ .hunk header) ∨
      ∃ header header', Role.ofLine line = .hunk header ∧ Role.ofLine line' = .hunk header' ∧
        header.bearing = header'.bearing := by
  unfold bearing? at h h'
  cases hheader : HunkHeader.ofLine? line with
  | some header =>
    rw [hheader] at h
    obtain rfl := Option.some.inj h
    cases hheader' : HunkHeader.ofLine? line' with
    | some header' =>
      rw [hheader'] at h'
      exact .inr ⟨header, header', role_of_header hheader, role_of_header hheader',
        (Option.some.inj h').symm⟩
    | none =>
      rw [hheader'] at h'
      simp [HunkHeader.bearing] at h'
  | none =>
    rw [hheader] at h
    have hline : bearing = .line line := by
      simp only [Option.ite_none_left_eq_some, Option.some.injEq] at h
      exact h.2.symm
    subst hline
    cases hheader' : HunkHeader.ofLine? line' with
    | some header' =>
      rw [hheader'] at h'
      simp [HunkHeader.bearing] at h'
    | none =>
      rw [hheader'] at h'
      simp only [Option.ite_none_left_eq_some, Option.some.injEq, Bearing.line.injEq] at h'
      refine .inl ⟨h'.2.symm, fun header hrole => ?_⟩
      have hopens := opens_of_role line
      rw [hrole] at hopens
      simp [hheader] at hopens

/-- Lines with the same bearing move two readers alike, up to what was announced. -/
lemma unannounced_of_step {place place' next next' : Place} {line line' : Text}
    {bearing : Bearing} (hb : bearing? line = some bearing) (hb' : bearing? line' = some bearing)
    (hp : place.unannounced = place'.unannounced)
    (hs : place.step line (Role.ofLine line) = .ok next)
    (hs' : place'.step line' (Role.ofLine line') = .ok next') :
    next.unannounced = next'.unannounced := by
  rcases eq_or_headers_of_bearing hb hb' with ⟨rfl, hrole⟩ | ⟨header, header', hr, hr', hsame⟩
  · have hstep := Place.step_unannounced place line hrole
    rw [hp, Place.step_unannounced place' line hrole, hs, hs'] at hstep
    exact (Except.ok.inj hstep).symm
  · have hfile := Place.file?_unannounced place
    rw [hp, Place.file?_unannounced place'] at hfile
    simp only [hr, hr', Place.step] at hs hs'
    cases hcurrent : place.file? with
    | none =>
      rw [hcurrent, Option.map_none, Option.map_eq_none_iff] at hfile
      rw [hcurrent] at hs
      rw [hfile] at hs'
      cases hs
      cases hs'
      rfl
    | some file =>
      rw [hcurrent] at hs hfile
      obtain ⟨file', hcurrent', hsame'⟩ := Option.map_eq_some_iff.1 hfile
      rw [hcurrent'] at hs'
      cases ho : header.opened line with
      | error fault => rw [ho] at hs; contradiction
      | ok hunk =>
        cases ho' : header'.opened line' with
        | error fault => rw [ho'] at hs'; contradiction
        | ok hunk' =>
          rw [ho] at hs
          rw [ho'] at hs'
          cases hs
          cases hs'
          show Place.hunk _ _ = Place.hunk _ _
          rw [HunkHeader.unannounced_opened hsame ho ho', hsame']

/-- A line opens a file exactly if a line of the same bearing opens it. -/
lemma role_eq_file_iff {line line' : Text} {bearing : Bearing} (hb : bearing? line = some bearing)
    (hb' : bearing? line' = some bearing) (paths : Text) :
    Role.ofLine line = .file paths ↔ Role.ofLine line' = .file paths := by
  rcases eq_or_headers_of_bearing hb hb' with ⟨rfl, -⟩ | ⟨header, header', hr, hr', -⟩
  · exact Iff.rfl
  · rw [hr, hr']
    simp

/-- Two readers that differ in what was announced only, and that go on with lines of the same
bearings, read the same up to what was announced. -/
lemma map_unannounced_of_readFrom {place place' : Place} {first second : List Text}
    {files files' : List File} (hp : place.unannounced = place'.unannounced)
    (hb : first.filterMap bearing? = second.filterMap bearing?)
    (h : readFrom place first = .ok files) (h' : readFrom place' second = .ok files') :
    files.map File.unannounced = files'.map File.unannounced := by
  have hcurrent : ∀ p p' : Place, p.unannounced = p'.unannounced →
      p.file?.toList.map File.unannounced = p'.file?.toList.map File.unannounced := by
    intro p p' hsame
    rw [← Option.toList_map, ← Option.toList_map, ← Place.file?_unannounced, hsame,
      Place.file?_unannounced]
  induction first generalizing place place' second files files' with
  | nil =>
    have hidle : ∀ line ∈ second, bearing? line = none := List.filterMap_eq_nil_iff.1 hb.symm
    have hread := readFrom_append_of_idle hidle place' []
    rw [List.append_nil, h'] at hread
    cases h
    cases hread
    exact hcurrent place place' hp
  | cons line rest ih =>
    cases hline : bearing? line with
    | none =>
      have hread : readFrom place (line :: rest) = readFrom place rest :=
        readFrom_append_of_idle (List.forall_mem_singleton.2 hline) place rest
      rw [h] at hread
      rw [List.filterMap_cons_none hline] at hb
      exact ih hp hb hread.symm h'
    | some bearing =>
      -- the second reader passes lines without bearing up to the one that matches
      rw [List.filterMap_cons_some hline] at hb
      obtain ⟨idle, line', rest', rfl, hidle, hline', hrest⟩ :=
        List.filterMap_eq_cons_iff.1 hb.symm
      rw [readFrom_append_of_idle hidle] at h'
      by_cases hfile : ∃ paths, Role.ofLine line = .file paths
      · obtain ⟨paths, hrole⟩ := hfile
        rw [readFrom_cons_of_file place hrole] at h
        rw [readFrom_cons_of_file place' ((role_eq_file_iff hline hline' paths).1 hrole)] at h'
        obtain ⟨later, hread, rfl⟩ := Except.map_eq_ok_iff.1 h
        obtain ⟨later', hread', rfl⟩ := Except.map_eq_ok_iff.1 h'
        rw [List.map_append, List.map_append, hcurrent place place' hp,
          ih rfl hrest.symm hread hread']
      · have hrole : ∀ paths, Role.ofLine line ≠ .file paths := fun paths hr => hfile ⟨paths, hr⟩
        have hrole' : ∀ paths, Role.ofLine line' ≠ .file paths := fun paths hr =>
          hrole paths ((role_eq_file_iff hline hline' paths).2 hr)
        rw [readFrom_cons_of_step place hrole] at h
        rw [readFrom_cons_of_step place' hrole'] at h'
        obtain ⟨next, hstep, hread⟩ := Except.bind_eq_ok_iff.1 h
        obtain ⟨next', hstep', hread'⟩ := Except.bind_eq_ok_iff.1 h'
        exact ih (unannounced_of_step hline hline' hp hstep hstep') hrest.symm hread hread'

/-! ## After reading -/

namespace File

lemma filter_hasChanges_unannounced (hunks : List Hunk) :
    (hunks.map Hunk.unannounced).filter Hunk.hasChanges =
      (hunks.filter Hunk.hasChanges).map Hunk.unannounced :=
  List.filter_map

lemma leftHunks_unannounced (config : Config) (passes : Text → Bool) (file : File) :
    file.unannounced.leftHunks config passes =
      (file.leftHunks config passes).map Hunk.unannounced := by
  rw [leftHunks, leftHunks, ← filter_hasChanges_unannounced, List.map_map]
  exact congrArg _ List.map_map

lemma withHunks_unannounced (file : File) (hunks : List Hunk) :
    file.unannounced.withHunks (hunks.map Hunk.unannounced) =
      (file.withHunks hunks).map unannounced := by
  cases hunks <;> rfl

lemma paths_sieve_unannounced (config : Config) (passes : Text → Bool) (file : File) :
    (file.unannounced.sieve config passes).paths = (file.sieve config passes).paths := by
  have hpath : file.unannounced.path = file.path := rfl
  have hhunks : file.unannounced.hunks = file.hunks.map Hunk.unannounced := rfl
  rw [sieve, sieve, hpath]
  split
  · rfl
  · simp only [sieved, hpath, hhunks, List.map_map, List.any_map]
    rfl

/-- What becomes of a file does not depend on what was announced. -/
lemma sieve_unannounced (config : Config) (passes : Text → Bool) (file : File) :
    file.unannounced.sieve config passes =
      ⟨(file.sieve config passes).files.map unannounced, (file.sieve config passes).changes,
        (file.sieve config passes).paths⟩ := by
  have hfiles : (file.unannounced.sieve config passes).files =
      (file.sieve config passes).files.map unannounced := by
    rw [files_sieve_eq, files_sieve_eq, leftHunks_unannounced, withHunks_unannounced]
  have hchanges : (file.unannounced.sieve config passes).changes =
      (file.sieve config passes).changes := by
    rw [changes_sieve, changes_sieve]
    exact congrArg (ite _ _) (List.flatMap_map _ _ _)
  rw [← hfiles, ← hchanges, ← paths_sieve_unannounced]

lemma render_unannounced (file : File) : file.unannounced.render = file.render := by
  have hhunks : ∀ hunks : List Hunk,
      (hunks.map Hunk.unannounced).flatMap Hunk.render = hunks.flatMap Hunk.render :=
    fun _ => List.flatMap_map _ _ _
  have hchanges : file.unannounced.hasChanges = file.hasChanges := List.any_map
  by_cases h : file.hasChanges = true
  · rw [render_of_hasChanges h, render_of_hasChanges (hchanges.trans h)]
    show _ ++ ((file.hunks.map Hunk.unannounced).filter _).flatMap _ = _
    rw [filter_hasChanges_unannounced, hhunks]
    rfl
  · rw [render_of_not_hasChanges h, render_of_not_hasChanges (by rwa [hchanges])]

end File

lemma sieve_map_unannounced (config : Config) (passes : Text → Bool) (files : List File) :
    sieve config passes (files.map File.unannounced) =
      ⟨(sieve config passes files).files.map File.unannounced, (sieve config passes files).changes,
        (sieve config passes files).paths⟩ := by
  simp only [sieve, List.map_map, List.flatMap_map, Function.comp_def, File.sieve_unannounced,
    List.map_flatMap]

lemma renderDiff_map_unannounced (files : List File) :
    renderDiff (files.map File.unannounced) = renderDiff files := by
  simp only [renderDiff, List.flatMap_map, File.render_unannounced]

lemma allLines_map_unannounced (files : List File) :
    allLines (files.map File.unannounced) = allLines files := by
  simp only [allLines, List.flatMap_map, File.unannounced]
  rfl

/-- Whether two cleaned diffs show, report and count the same. -/
structure Cleaned.Agrees (first second : Cleaned) : Prop where
  text : first.text = second.text
  changes : first.sieved.changes = second.sieved.changes
  paths : first.sieved.paths = second.sieved.paths
  statistics : first.statistics = second.statistics

lemma agrees_of_map_unannounced (config : Config) (passes : Text → Bool)
    {files files' : List File}
    (h : files.map File.unannounced = files'.map File.unannounced) :
    Cleaned.Agrees ⟨files, sieve config passes files⟩ ⟨files', sieve config passes files'⟩ := by
  have hsieve := sieve_map_unannounced config passes files
  rw [h, sieve_map_unannounced config passes files'] at hsieve
  obtain ⟨hfiles, hchanges, hpaths⟩ := Sieved.mk.inj hsieve
  have hcount : ∀ files : List File,
      changedCount (files.map File.unannounced) = changedCount files := by
    intro files
    rw [changedCount, allLines_map_unannounced, changedCount]
  constructor
  · show renderDiff _ = renderDiff _
    rw [← renderDiff_map_unannounced, ← hfiles, renderDiff_map_unannounced]
  · exact hchanges.symm
  · exact hpaths.symm
  · have hlength := congrArg List.length h
    have hlines := congrArg allLines h
    have hbefore := congrArg changedCount h
    have hafter := congrArg changedCount hfiles
    rw [List.length_map, List.length_map] at hlength
    rw [allLines_map_unannounced, allLines_map_unannounced] at hlines
    rw [hcount, hcount] at hbefore hafter
    simp only [Cleaned.statistics, Statistics.ofFiles, hlength, hlines, hbefore, hafter, hpaths]

/-- Two texts that can be read, with the same lines once the marks of missing line ends and the
lines that only look like headers are left out and each header is cut down to its two starts and its
heading, hold the same files up to the header lines and the counts announced in them; and whatever
is to be removed and to pass through, what is left of them is shown, reported and counted alike. -/
theorem announcements_have_no_influence {first second : Text} {files files' : List File}
    (hb : bearings first = bearings second) (hf : readDiff first = .ok files)
    (hs : readDiff second = .ok files') :
    files.map File.unannounced = files'.map File.unannounced ∧
      ∀ (config : Config) (passes : Text → Bool), ∃ a b, clean config passes first = .ok a ∧
        clean config passes second = .ok b ∧ a.Agrees b := by
  have hsame : files.map File.unannounced = files'.map File.unannounced :=
    map_unannounced_of_readFrom rfl hb hf hs
  refine ⟨hsame, fun config passes => ?_⟩
  exact ⟨_, _, clean_eq_ok_iff.2 ⟨hf, rfl⟩, clean_eq_ok_iff.2 ⟨hs, rfl⟩,
    agrees_of_map_unannounced config passes hsame⟩

/-! The small diff once more, with lines that say nothing in every place where the reader can be,
between the two lines of a pair among others, and with a header that announces other counts. -/

def noisyText : Text :=
  ["@@ -1 +1 none", "\\ No newline at end of file", "diff --git a/x.ts b/x.ts",
    "\\ No newline at end of file", "@@", "@@ -٠1,900 +1 @@  ", "-a = 1",
    "\\ No newline at end of file", "@@@ -1 +1 @@@", "+a  = 1", " c", "-# old", "-x",
    "\\ No newline at end of file", "+y", "@@ no header", "+# new"].flatMap fun line =>
      line.toList ++ ['\n']

def noisyFile : File :=
  { sampleFile with
    hunks :=
      [{ sampleHunk with header := "@@ -٠1,900 +1 @@  ".toList, declared := ⟨900, 1⟩ }] }

/-- What was announced differs, and the cleaned diffs agree. -/
theorem agrees_of_noisyText :
    bearings noisyText = bearings sampleText ∧ readDiff noisyText = .ok [noisyFile] ∧
      readDiff sampleText = .ok [sampleFile] ∧ noisyFile ≠ sampleFile ∧
      noisyFile.unannounced = sampleFile.unannounced ∧
      ∃ a b, clean (.full none) (fun _ => false) noisyText = .ok a ∧
        clean (.full none) (fun _ => false) sampleText = .ok b ∧ a.Agrees b := by
  have hbearings : bearings noisyText = bearings sampleText := by decide +kernel
  have hread : readDiff noisyText = .ok [noisyFile] := by rfl
  obtain ⟨hfiles, hclean⟩ := announcements_have_no_influence hbearings hread readDiff_sampleText
  exact ⟨hbearings, hread, readDiff_sampleText, by decide, List.singleton_inj.1 hfiles,
    hclean (.full none) fun _ => false⟩

end DiffSieve
