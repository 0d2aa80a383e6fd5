import DiffSieve.Proofs.Flagging
import DiffSieve.Proofs.Reader
import DiffSieve.Proofs.Stripping

/-!
# Semicolons and the line that follows

A statement without its semicolon may go on in the next line of the new version, if that line opens
with one of a few marks.  The detector of semicolons guards against this by a look at the line that
stands right after the added line in the hunk, whichever version holds it and even if it is blank.

In a hunk that was read, a pair is flagged exactly if its lines differ in a final semicolon and that
one line does not open with such a mark (`flagsPair_semicolon_iff`).  It need not be the line that
follows in the new version, which `nextOfNew?` finds: a removed line or a blank one may stand in
between, and then the guard says nothing (`mark_passed_over`).  Nothing else can come in between,
and removed lines cannot either if every block shows them before its added lines.
-/

namespace DiffSieve

open Likeness

/-- The first line of the new version after a place in a hunk, blank lines left aside. -/
def nextOfNew? (lines : List Line) (index : Nat) : Option Line :=
  (lines.drop (index + 1)).find? fun line => line.isNew && !(Text.trim line.content).isEmpty

/-- Whether no removed line comes right after an added one, so that every block shows its removed
lines first. -/
def RemovedFirst (lines : List Line) : Prop :=
  lines.IsChain fun line next => line.isOld = false → next.isNew = true

instance (lines : List Line) : Decidable (RemovedFirst lines) :=
  inferInstanceAs (Decidable (lines.IsChain _))

/-- Whether a detection flags both lines of a pair. -/
def Detection.flagsPair (detection : Detection) (pair : ChangePair) : Bool :=
  Flags.holds detection.flagged pair.removed && Flags.holds detection.flagged pair.added

/-! ## The pairs that are flagged -/

lemma mem_flaggedEdits_semicolon {dialect : Dialect} {lines : List Line} {edit : Edit} :
    edit ∈ Detection.flaggedEdits dialect lines .semicolon ↔
      ∃ pair ∈ changePairs lines, Detection.onlySemicolonIn lines pair = true ∧
        (edit = pair.removed ∨ edit = pair.added) := by
  rw [Detection.mem_flaggedEdits]
  simp [Detection.pairTest, Detection.editTest, Detection.blockTest]

/-- In a numbered hunk the flagged pairs are those that the question about pairs holds of. -/
lemma flagsPair_semicolon_iff {next : Sides Int} {lines : List Line} (hn : Numbered next lines)
    (dialect : Dialect) {pair : ChangePair} (hp : pair ∈ changePairs lines) :
    (Detection.ofCategory dialect lines (changePairs lines) .semicolon).flagsPair pair = true ↔
      Detection.onlySemicolonIn lines pair = true := by
  have hwithin := ChangePair.within_of_mem_changePairs hp
  rw [Detection.flagsPair, Bool.and_eq_true, Detection.holds_flagged_iff hn hwithin.removed_mem,
    Detection.holds_flagged_iff hn hwithin.added_mem, mem_flaggedEdits_semicolon,
    mem_flaggedEdits_semicolon]
  constructor
  · rintro ⟨-, other, hother, htest, hremoved | hadded⟩
    · have hside := (ChangePair.within_of_mem_changePairs hother).removed_side
      rw [← hremoved, hwithin.added_side] at hside
      contradiction
    · rwa [pair_eq_of_added hp hother hadded]
  · intro htest
    exact ⟨⟨pair, hp, htest, .inl rfl⟩, pair, hp, htest, .inr rfl⟩

lemma onlySemicolonIn_iff {lines : List Line} {pair : ChangePair} :
    Detection.onlySemicolonIn lines pair = true ↔
      onlyFinal ';' (Text.trim pair.removed.content) (Text.trim pair.added.content) = true ∧
        ∀ line ∈ lines[pair.added.index + 1]?, mayContinue line.content = false := by
  rw [Detection.onlySemicolonIn, onlySemicolon, Bool.and_eq_true, Detection.contentAfter]
  cases lines[pair.added.index + 1]? <;> simp

/-! ## The line right after, and the next line of the new version -/

/-- If the line right after a place is not the next one of the new version, then it is passed over:
the new version does not hold it, or it is blank. -/
lemma exists_passed {lines : List Line} {index : Nat} {next : Line}
    (h : nextOfNew? lines index = some next) (hne : lines[index + 1]? ≠ some next) :
    ∃ passed ∈ lines[index + 1]?, passed.isNew = false ∨ Text.trim passed.content = [] := by
  rw [← List.head?_drop] at hne ⊢
  rw [nextOfNew?] at h
  cases hrest : lines.drop (index + 1) with
  | nil =>
    rw [hrest] at h
    contradiction
  | cons line rest =>
    rw [hrest] at h hne
    refine ⟨line, rfl, ?_⟩
    by_contra hkeep
    rw [not_or, Bool.not_eq_false] at hkeep
    rw [List.find?_cons_of_pos (by simp [hkeep])] at h
    exact hne h

lemma RemovedFirst.isNew {lines : List Line} (h : RemovedFirst lines) {index : Nat}
    {line next : Line} (hline : lines[index]? = some line) (hold : line.isOld = false)
    (hnext : lines[index + 1]? = some next) : next.isNew = true := by
  obtain ⟨hbound, rfl⟩ := List.getElem?_eq_some_iff.1 hnext
  obtain ⟨_, rfl⟩ := List.getElem?_eq_some_iff.1 hline
  exact List.isChain_iff_getElem.1 h index hbound hold

/-- The added line of a pair stands where the pair says, and the old version does not hold it. -/
lemma exists_added_line {lines : List Line} {pair : ChangePair} (hp : pair ∈ changePairs lines) :
    ∃ line, lines[pair.added.index]? = some line ∧ line.isOld = false := by
  have hwithin := ChangePair.within_of_mem_changePairs hp
  obtain ⟨i, hindex, hline⟩ := getElem?_of_mem_editsFrom hwithin.added_mem
  rw [Nat.zero_add] at hindex
  refine ⟨pair.added.toLine, hindex ▸ hline, ?_⟩
  rw [Edit.toLine, hwithin.added_side]
  rfl

/-- In a hunk that was read, a pair is flagged exactly if its lines differ in a final semicolon and
the line right after the added one, of whatever kind, does not open with a mark that may go on
with the statement.  The next line of the new version that is not blank does not open with one
either, unless a removed line or a blank one comes right after the added line and hides it, and
this is a blank one if the hunk lists removed lines first. -/
theorem semicolon_guard_reads_the_line_after {text : Text} {files : List File}
    (hr : readDiff text = .ok files) {file : File} (hf : file ∈ files) {hunk : Hunk}
    (hh : hunk ∈ file.hunks) {pair : ChangePair} (hp : pair ∈ changePairs hunk.lines)
    (dialect : Dialect) :
    let detection :=
      Detection.ofCategory dialect hunk.lines (changePairs hunk.lines) .semicolon
    (detection.flagsPair pair = true ↔
      onlyFinal ';' (Text.trim pair.removed.content) (Text.trim pair.added.content) = true ∧
        ∀ line ∈ hunk.lines[pair.added.index + 1]?, mayContinue line.content = false) ∧
    (detection.flagsPair pair = true →
      ∀ next ∈ nextOfNew? hunk.lines pair.added.index, mayContinue next.content = true →
        ∃ passed ∈ hunk.lines[pair.added.index + 1]?,
          (passed.isNew = false ∨ Text.trim passed.content = []) ∧
          (RemovedFirst hunk.lines → passed.isNew = true ∧ Text.trim passed.content = [])) := by
  intro detection
  have hflags : detection.flagsPair pair = true ↔ _ :=
    (flagsPair_semicolon_iff (isCounted_of_readDiff hr hf hh).1 dialect hp).trans
      onlySemicolonIn_iff
  refine ⟨hflags, fun hflagged next hnext hmark => ?_⟩
  have hguard := (hflags.1 hflagged).2
  have hother : hunk.lines[pair.added.index + 1]? ≠ some next := by
    intro hsame
    rw [hguard next hsame] at hmark
    contradiction
  obtain ⟨passed, hpassed, hhides⟩ := exists_passed hnext hother
  refine ⟨passed, hpassed, hhides, fun hfirst => ?_⟩
  obtain ⟨line, hline, hold⟩ := exists_added_line hp
  have hnew : passed.isNew = true := hfirst.isNew hline hold hpassed
  exact ⟨hnew, hhides.resolve_left (by simp [hnew])⟩

/-! ### Where the guard sees the mark, and where it does not

A statement loses its semicolon in three hunks, and the new version goes on with an open bracket in
each.  The bracket comes right after the added line in the first hunk, after a blank line in the
second one, and after the removed line in the third. -/

def markText : Text :=
  ["diff --git a/x.ts b/x.ts", "@@ -1,2 +1,2 @@", "-a();", "+a()", " [1].b()",
    "@@ -5,3 +5,3 @@", "-a();", "+a()", " ", " [1].b()",
    "@@ -10,2 +10,2 @@", "+a()", "-a();", " [1].b()"].flatMap fun line => line.toList ++ ['\n']

def seenHunk : Hunk where
  header := "@@ -1,2 +1,2 @@".toList
  heading := []
  start := ⟨1, 1⟩
  count := ⟨2, 2⟩
  declared := ⟨2, 2⟩
  lines := [.removed "a();".toList 1, .added "a()".toList 1, .context "[1].b()".toList 2 2]

def blankHunk : Hunk where
  header := "@@ -5,3 +5,3 @@".toList
  heading := []
  start := ⟨5, 5⟩
  count := ⟨3, 3⟩
  declared := ⟨3, 3⟩
  lines :=
    [.removed "a();".toList 5, .added "a()".toList 5, .context [] 6 6,
      .context "[1].b()".toList 7 7]

def turnedHunk : Hunk where
  header := "@@ -10,2 +10,2 @@".toList
  heading := []
  start := ⟨10, 10⟩
  count := ⟨2, 2⟩
  declared := ⟨2, 2⟩
  lines := [.added "a()".toList 10, .removed "a();".toList 10, .context "[1].b()".toList 11 11]

def markFile : File :=
  { sampleFile with hunks := [seenHunk, blankHunk, turnedHunk] }

lemma readDiff_markText : readDiff markText = .ok [markFile] := by rfl

/-- Behind a blank line, and behind a removed one, the mark is passed over: the pair is flagged. -/
theorem mark_passed_over :
    readDiff markText = .ok [markFile] ∧
      ∀ hunk ∈ [blankHunk, turnedHunk], hunk ∈ markFile.hunks ∧
        ∃ pair ∈ changePairs hunk.lines,
          (Detection.ofCategory .script hunk.lines (changePairs hunk.lines) .semicolon).flagsPair
            pair = true ∧
          ∃ next ∈ nextOfNew? hunk.lines pair.added.index, mayContinue next.content = true := by
  refine ⟨readDiff_markText, List.forall_mem_cons.2 ⟨?_, List.forall_mem_singleton.2 ?_⟩⟩
  · refine ⟨by decide, ⟨⟨0, .old, "a();".toList, 5⟩, ⟨1, .new, "a()".toList, 5⟩⟩,
      by decide +kernel, by decide +kernel, .context "[1].b()".toList 7 7, ?_⟩
    decide +kernel
  · refine ⟨by decide, ⟨⟨1, .old, "a();".toList, 10⟩, ⟨0, .new, "a()".toList, 10⟩⟩,
      by decide +kernel, by decide +kernel, .context "[1].b()".toList 11 11, ?_⟩
    decide +kernel

/-- The pair of the first hunk is not flagged.  That of the second one is, and there what hides the
mark is the blank line. -/
theorem guard_at_markText :
    let flagsPair (hunk : Hunk) :=
      (Detection.ofCategory .script hunk.lines (changePairs hunk.lines) .semicolon).flagsPair
    let seenPair : ChangePair := ⟨⟨0, .old, "a();".toList, 1⟩, ⟨1, .new, "a()".toList, 1⟩⟩
    let blankPair : ChangePair := ⟨⟨0, .old, "a();".toList, 5⟩, ⟨1, .new, "a()".toList, 5⟩⟩
    readDiff markText = .ok [markFile] ∧
      seenPair ∈ changePairs seenHunk.lines ∧ blankPair ∈ changePairs blankHunk.lines ∧
      flagsPair seenHunk seenPair = false ∧ flagsPair blankHunk blankPair = true ∧
      ∃ passed ∈ blankHunk.lines[2]?, passed.isNew = true ∧ Text.trim passed.content = [] := by
  intro flagsPair seenPair blankPair
  have hseen : seenPair ∈ changePairs seenHunk.lines := by decide +kernel
  have hblank : blankPair ∈ changePairs blankHunk.lines := by decide +kernel
  have hfile : markFile ∈ [markFile] := List.mem_singleton_self _
  obtain ⟨hflagsSeen, -⟩ := semicolon_guard_reads_the_line_after readDiff_markText hfile
    (show seenHunk ∈ markFile.hunks by decide) hseen .script
  obtain ⟨hflagsBlank, hnext⟩ := semicolon_guard_reads_the_line_after readDiff_markText hfile
    (show blankHunk ∈ markFile.hunks by decide) hblank .script
  have hflagged : flagsPair blankHunk blankPair = true := hflagsBlank.2 (by decide +kernel)
  obtain ⟨passed, hpassed, -, hfirst⟩ :=
    hnext hflagged (.context "[1].b()".toList 7 7) (by decide +kernel) (by decide +kernel)
  refine ⟨readDiff_markText, hseen, hblank, ?_, hflagged, passed, hpassed, hfirst ?_⟩
  · rw [← Bool.not_eq_true, hflagsSeen]
    decide +kernel
  · decide +kernel

end DiffSieve
