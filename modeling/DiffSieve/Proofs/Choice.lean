import DiffSieve.Proofs.Replacement
import DiffSieve.Proofs.Survivors
import Mathlib.Data.List.Sort

/-!
# Choosing categories

A detector does not know which other detectors are asked.  So what is found with fewer categories is
what is found with more of them, the categories that were not chosen left out
(`findings_eq_filter`), and each number that the fewer ones flag is flagged by the more.  A changed
line survives if its number is not flagged; whether its block becomes context as a whole and which
line is its partner decide only what takes the place of a flagged line.  This is why no line comes
back when a category is added (`more_categories_leave_less`).

The order in which detections are handed over does not matter either.  Sets of numbers are united,
and where the order of pairs could matter, all of them come from one detector
(`contentPairs_eq_of_perm`).
-/

namespace DiffSieve

/-! ## Sets of numbers -/

lemma NumberSet.eq_of_mem_iff {first second : NumberSet} (h : ∀ n, n ∈ first ↔ n ∈ second) :
    first = second := by
  have hlist := first.ascending.eq_of_mem_iff second.ascending h
  cases first
  cases second
  congr

lemma Sides.eq_of_at {α : Type} {s t : Sides α} (h : ∀ side, s.at side = t.at side) : s = t := by
  have hold : s.old = t.old := h .old
  have hnew : s.new = t.new := h .new
  cases s
  cases t
  congr

lemma Flags.unite_eq_of_perm {first second : List Detection} (h : first.Perm second) :
    unite first = unite second := by
  apply Sides.eq_of_at
  intro side
  apply NumberSet.eq_of_mem_iff
  intro n
  rw [mem_unite, mem_unite]
  exact exists_congr fun detection => and_congr_left fun _ => h.mem_iff

/-! ## Fewer categories -/

section

variable {few many : Config}

lemma categories_eq_filter (hc : ∀ c, few.ignores c = true → many.ignores c = true) :
    few.categories = many.categories.filter few.ignores := by
  rw [Config.categories, Config.categories, List.filter_filter]
  apply List.filter_congr
  intro c _
  cases hfew : few.ignores c with
  | false => rfl
  | true => exact (hc c hfew).symm

/-- With fewer categories the same is found, as far as it belongs to them. -/
lemma findings_eq_filter (hc : ∀ c, few.ignores c = true → many.ignores c = true)
    (dialect : Dialect) (lines : List Line) (pairs : List ChangePair) :
    findings few dialect lines pairs =
      (findings many dialect lines pairs).filter (few.ignores ·.category) := by
  unfold findings
  rw [categories_eq_filter hc, List.filter_filter, List.filter_map, List.filter_map,
    List.filter_filter]
  congr 1
  apply List.filter_congr
  intro c _
  exact Bool.and_comm _ _

namespace Hunk

variable {hunk : Hunk} {path : Text}

lemma isFlagged_of_isFlagged (hc : ∀ c, few.ignores c = true → many.ignores c = true)
    {line : Line} (h : line.isFlagged (Finding.flagged (hunk.findings few path)) = true) :
    line.isFlagged (Finding.flagged (hunk.findings many path)) = true := by
  have hmem : ∀ side n, n ∈ (Finding.flagged (hunk.findings few path)).at side →
      n ∈ (Finding.flagged (hunk.findings many path)).at side := by
    intro side n hn
    obtain ⟨detection, hd, hflagged⟩ := Flags.mem_unite.1 hn
    obtain ⟨finding, hf, rfl⟩ := List.mem_map.1 hd
    rw [findings, findings_eq_filter hc] at hf
    exact Flags.mem_unite.2 ⟨_, List.mem_map_of_mem (List.mem_filter.1 hf).1, hflagged⟩
  cases line with
  | context => exact h
  | removed content old => exact decide_eq_true (hmem .old old (of_decide_eq_true h))
  | added content new => exact decide_eq_true (hmem .new new (of_decide_eq_true h))

/-- With more categories fewer lines survive, and none that did not survive before. -/
lemma survivors_sublist (hc : ∀ c, few.ignores c = true → many.ignores c = true) (path : Text)
    (hunk : Hunk) : (hunk.survivors many path).Sublist (hunk.survivors few path) := by
  apply List.monotone_filter_right
  intro line hline
  obtain ⟨hchanged, hkept⟩ := Bool.and_eq_true_iff.1 hline
  rw [hchanged, Bool.true_and]
  by_contra hflagged
  rw [isFlagged_of_isFlagged hc (by simpa using hflagged)] at hkept
  contradiction

lemma survivors_eq_nil (hc : ∀ c, few.ignores c = true → many.ignores c = true)
    (h : hunk.survivors few path = []) : hunk.survivors many path = [] := by
  have hsub := survivors_sublist hc path hunk
  rw [h] at hsub
  exact List.sublist_nil.1 hsub

end Hunk

/-- The reports of the fewer categories are those of the more that belong to them. -/
lemma changes_sieve_eq_filter (hc : ∀ c, few.ignores c = true → many.ignores c = true)
    (passes : Text → Bool) (files : List File) :
    (sieve few passes files).changes =
      (sieve many passes files).changes.filter (few.ignores ·.category) := by
  rw [changes_sieve, changes_sieve, List.filter_flatMap]
  apply List.flatMap_congr
  intro file _
  rw [File.changes_sieve, File.changes_sieve]
  split
  · rfl
  · rw [List.filter_flatMap]
    apply List.flatMap_congr
    intro hunk _
    rw [Hunk.findings, findings_eq_filter hc, List.filter_map]
    rfl

end

/-! ## The order of detections -/

section

variable {config : Config} {dialect : Dialect} {lines : List Line} {pairs : List ChangePair}

/-- No category is found twice. -/
lemma nodup_category_findings (config : Config) (dialect : Dialect) (lines : List Line)
    (pairs : List ChangePair) :
    ((findings config dialect lines pairs).map Finding.category).Nodup := by
  have hall : Category.all.Nodup := by decide
  have hcategories : config.categories = (config.categories.map fun c =>
      (⟨c, Detection.ofCategory dialect lines pairs c⟩ : Finding)).map Finding.category := by
    simp [Function.comp_def]
  have hnodup : config.categories.Nodup := hall.filter _
  rw [hcategories] at hnodup
  exact hnodup.sublist (List.filter_sublist.map _)

lemma pairs_eq_nil_of_mem_findings {finding : Finding}
    (hf : finding ∈ findings config dialect lines pairs)
    (hc : finding.category ≠ .importOrder) : finding.detection.pairs = [] := by
  obtain ⟨category, -, rfl⟩ := List.mem_map.1 (List.mem_filter.1 hf).1
  cases category with
  | importOrder => exact absurd rfl hc
  | _ => rfl

namespace Hunk

lemma contentPairs_eq_filter {found : List Finding}
    (h : ∀ f ∈ found, f.category ≠ .importOrder → f.detection.pairs = []) :
    contentPairs found = contentPairs (found.filter (·.category = .importOrder)) := by
  induction found with
  | nil => rfl
  | cons finding rest ih =>
    have hrest := ih fun f hf => h f (List.mem_cons_of_mem _ hf)
    rw [contentPairs, List.flatMap_cons, ← contentPairs, hrest]
    by_cases hc : finding.category = .importOrder
    · rw [List.filter_cons_of_pos (by simpa using hc)]
      rfl
    · rw [List.filter_cons_of_neg (by simpa using hc), h finding List.mem_cons_self hc]
      rfl

/-- The pairs by content are the same in every order, since one detector finds all of them. -/
lemma contentPairs_eq_of_perm {order : List Finding}
    (h : order.Perm (DiffSieve.findings config dialect lines pairs)) :
    contentPairs order = contentPairs (DiffSieve.findings config dialect lines pairs) := by
  have hnodup := nodup_category_findings config dialect lines pairs
  have hnodup' := (h.map Finding.category).nodup_iff.2 hnodup
  have hsame : order.filter (·.category = .importOrder) =
      (DiffSieve.findings config dialect lines pairs).filter (·.category = .importOrder) := by
    refine List.Perm.eq_of_pairwise ?_ ((List.pairwise_map.1 hnodup').filter _)
      ((List.pairwise_map.1 hnodup).filter _) (h.filter _)
    intro first second hf hs hne
    have hfirst : first.category = .importOrder := by simpa using (List.mem_filter.1 hf).2
    have hsecond : second.category = .importOrder := by simpa using (List.mem_filter.1 hs).2
    exact absurd (hfirst.trans hsecond.symm) hne
  rw [contentPairs_eq_filter fun f hf => pairs_eq_nil_of_mem_findings (h.mem_iff.1 hf),
    contentPairs_eq_filter fun f hf => pairs_eq_nil_of_mem_findings hf, hsame]

/-- A hunk is stripped of what was found in it, in whichever order that is handed over. -/
lemma sieve_eq_of_perm (hunk : Hunk) {order : List Finding}
    (h : order.Perm (DiffSieve.findings config dialect lines pairs)) :
    hunk.sieve order = hunk.sieve (DiffSieve.findings config dialect lines pairs) := by
  have hflags : hunk.flags order = hunk.flags (DiffSieve.findings config dialect lines pairs) := by
    have hpairs : (hunk.flags order).pairs =
        (hunk.flags (DiffSieve.findings config dialect lines pairs)).pairs := by
      rw [pairs_flags, pairs_flags, contentPairs_eq_of_perm h]
    unfold flags Flags.ofDetections at hpairs ⊢
    congr 1
    · exact Flags.unite_eq_of_perm (((h.map _).filter _).map _)
    · exact Flags.unite_eq_of_perm (((h.map _).filter _).map _)
  rw [sieve, sieve, hflags]

end Hunk

end

/-! ## The whole diff -/

/-- In a diff that was read, let every category of one choice be one of another choice.  Hunk by
hunk, the changed lines that survive the second choice are among those that survive the first one,
in order, and no hunk and no file that the first one drops is kept by the second.  The reports of
the first choice are the reports of the second that belong to its categories.  And the findings in a
hunk, whatever it is, may be handed over in any order. -/
theorem more_categories_leave_less {text : Text} {files : List File}
    (h : readDiff text = .ok files) {few many : Config}
    (hc : ∀ c, few.ignores c = true → many.ignores c = true) (passes : Text → Bool) :
    (∀ file ∈ files,
      ((file.sieve few passes).files = [] → (file.sieve many passes).files = []) ∧
      (passes file.path = true → file.sieve many passes = file.sieve few passes) ∧
      (passes file.path = false → ∀ hunk ∈ file.hunks,
        let left config := (hunk.sieve (hunk.findings config file.path)).hunk
        ((left many).elim [] fun kept => changesOf kept.lines).Sublist
          ((left few).elim [] fun kept => changesOf kept.lines) ∧
        (left few = none → left many = none))) ∧
    (sieve few passes files).changes =
      (sieve many passes files).changes.filter (few.ignores ·.category) ∧
    ∀ (hunk : Hunk) (config : Config) (dialect : Dialect) (order : List Finding),
      order.Perm (findings config dialect hunk.lines (changePairs hunk.lines)) →
        hunk.sieve order =
          hunk.sieve (findings config dialect hunk.lines (changePairs hunk.lines)) := by
  refine ⟨?_, changes_sieve_eq_filter hc passes files, ?_⟩
  · intro file hf
    have hn : ∀ hunk ∈ file.hunks, Numbered hunk.start hunk.lines :=
      fun hunk hh => (isCounted_of_readDiff h hf hh).numbered
    have hpass : passes file.path = true → file.sieve many passes = file.sieve few passes := by
      intro hp
      rw [File.sieve, File.sieve, if_pos hp, if_pos hp]
    refine ⟨?_, hpass, ?_⟩
    · intro hdropped
      by_cases hp : passes file.path = true
      · rw [hpass hp, hdropped]
      · have hp : passes file.path = false := by simpa using hp
        rw [File.files_sieve_eq_nil_iff hn hp] at hdropped ⊢
        exact fun hunk hh => Hunk.survivors_eq_nil hc (hdropped hunk hh)
    · intro _ hunk hh
      simp only [Hunk.changesOf_sieve (hn hunk hh), Hunk.hunk_sieve_eq_none_iff (hn hunk hh)]
      exact ⟨Hunk.survivors_sublist hc _ _, Hunk.survivors_eq_nil hc⟩
  · exact fun hunk _ _ _ horder => hunk.sieve_eq_of_perm horder

/-- Of the sample the comment lines go as well if comments are chosen besides white space. -/
theorem less_left_of_sampleText :
    let few : Config := { whitespace := true }
    let many : Config := { whitespace := true, comment := true }
    let left config := (sampleHunk.sieve (sampleHunk.findings config sampleFile.path)).hunk
    readDiff sampleText = .ok [sampleFile] ∧
      (∀ c, few.ignores c = true → many.ignores c = true) ∧
      ((left many).elim [] fun kept => changesOf kept.lines).Sublist
        ((left few).elim [] fun kept => changesOf kept.lines) ∧
      (left few).elim [] (fun kept => changesOf kept.lines) =
        [.removed "# old".toList 3, .removed ['x'] 4, .added ['y'] 3, .added "# new".toList 4] ∧
      (sieve few (fun _ => false) [sampleFile]).changes =
        (sieve many (fun _ => false) [sampleFile]).changes.filter (few.ignores ·.category) := by
  intro few many left
  have hc : ∀ c, few.ignores c = true → many.ignores c = true := by
    intro c
    cases c <;> decide
  obtain ⟨hfiles, hchanges, -⟩ := more_categories_leave_less readDiff_sampleText hc fun _ => false
  obtain ⟨-, -, hhunks⟩ := hfiles sampleFile (List.mem_singleton_self _)
  have hleft := (hhunks rfl sampleHunk (List.mem_singleton_self _)).1
  exact ⟨readDiff_sampleText, hc, hleft, by decide +kernel, hchanges⟩

end DiffSieve
