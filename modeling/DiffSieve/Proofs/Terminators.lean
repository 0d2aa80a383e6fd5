import DiffSieve.Diff.Reader
import DiffSieve.Proofs.LineEnds
import DiffSieve.Proofs.Reader
import Mathlib.Data.List.Basic

/-!
# Lines and what ends them

A text is put together from lines in more than one way: each may be ended by a line feed, or by a
carriage return and a line feed, and the last one need not be ended at all if there is something in
it.  `Joins` lists these ways.  Lines that hold no line feed and do not end with a carriage return
are read back from any of them (`lines_of_joins`), and the lines read from a text are one way to put
that text together (`joins_lines`); ended by line feeds only, they are the text with its pairs of
line ends made one (`flatMap_lines`).

A text is taken apart at its first line feed, so the proofs are inductions on the lines
(`lineInduction`) by way of the one equation for a line and the text after it (`lines_cons`).
-/

namespace DiffSieve
namespace Text

/-! ## Texts put together from lines -/

/-- What may end a line. -/
def lineMarks : List Text :=
  [['\n'], ['\r', '\n']]

/-- Whether a text is put together from some lines, each with the mark that ends it.  No mark need
end the last line, unless it is empty. -/
inductive Joins : List Text → Text → Prop where
  | nil : Joins [] []
  | unended {line : Text} (h : line ≠ []) : Joins [line] line
  | ended {line mark text : Text} {rest : List Text} (hm : mark ∈ lineMarks)
      (h : Joins rest text) : Joins (line :: rest) (line ++ mark ++ text)

/-- The text with each carriage return and line feed in a row made one line feed. -/
def pairsToFeeds : Text → Text
  | [] => []
  | c :: rest =>
    if c = '\r' && rest.head? = some '\n' then pairsToFeeds rest else c :: pairsToFeeds rest

/-- The text with each line feed made a carriage return and a line feed. -/
def feedsToPairs (text : Text) : Text :=
  text.flatMap fun c => if c = '\n' then ['\r', '\n'] else [c]

/-- The text with a line feed at its end, unless it is empty or has one there. -/
def closed (text : Text) : Text :=
  if text = [] ∨ text.getLast? = some '\n' then text else text ++ ['\n']

/-! ## Splitting undoes joining -/

lemma mem_lineMarks {mark : Text} : mark ∈ lineMarks ↔ mark = ['\n'] ∨ mark = ['\r', '\n'] := by
  simp [lineMarks]

/-- A line with the line feed after it is what is read of it with the mark that ends it. -/
lemma exists_mark (line rest : Text) :
    ∃ mark ∈ lineMarks, line ++ '\n' :: rest = dropFinal '\r' line ++ mark ++ rest := by
  rcases eq_dropFinal_or '\r' line with heq | heq
  · refine ⟨['\n'], mem_lineMarks.2 (.inl rfl), ?_⟩
    rw [← heq, List.append_assoc, List.singleton_append]
  · refine ⟨['\r', '\n'], mem_lineMarks.2 (.inr rfl), ?_⟩
    calc line ++ '\n' :: rest = (dropFinal '\r' line ++ ['\r']) ++ '\n' :: rest := by rw [← heq]
      _ = dropFinal '\r' line ++ ['\r', '\n'] ++ rest := by simp

lemma lines_of_joins {ls : List Text} {text : Text} (h : Joins ls text)
    (hl : ∀ line ∈ ls, '\n' ∉ line ∧ line.getLast? ≠ some '\r') : lines text = ls := by
  induction h with
  | nil => rfl
  | @unended line hne =>
    rw [lines_of_not_mem (hl line List.mem_cons_self).1, if_neg hne]
  | @ended line mark text rest hm _ ih =>
    obtain ⟨hfeed, hreturn⟩ := hl line List.mem_cons_self
    have hrest := ih fun line hmem => hl line (List.mem_cons_of_mem _ hmem)
    rcases mem_lineMarks.1 hm with rfl | rfl
    · rw [List.append_assoc, List.singleton_append, lines_cons hfeed, hrest,
        dropFinal_of_ne hreturn]
    · have hpair : line ++ ['\r', '\n'] ++ text = (line ++ ['\r']) ++ '\n' :: text := by simp
      rw [hpair, lines_cons (by simpa using hfeed), hrest, dropFinal_concat]

/-! ## Joining undoes splitting -/

lemma joins_lines (text : Text) : Joins (lines text) text := by
  induction text using lineInduction with
  | last line h =>
    rw [lines_of_not_mem h]
    by_cases hne : line = []
    · rw [if_pos hne, hne]
      exact .nil
    · rw [if_neg hne]
      exact .unended hne
  | cons line rest h ih =>
    obtain ⟨mark, hm, heq⟩ := exists_mark line rest
    rw [lines_cons h, heq]
    exact .ended hm ih

lemma pairsToFeeds_of_not_mem {text : Text} (h : '\n' ∉ text) : pairsToFeeds text = text := by
  induction text with
  | nil => rfl
  | cons c rest ih =>
    obtain ⟨-, hrest⟩ := not_or.1 (List.mem_cons.not.1 h)
    have hhead : rest.head? ≠ some '\n' := fun heq => hrest (List.mem_of_head? heq)
    rw [pairsToFeeds, if_neg (by simp [hhead]), ih hrest]

lemma pairsToFeeds_cons {line : Text} (h : '\n' ∉ line) (rest : Text) :
    pairsToFeeds (line ++ '\n' :: rest) = dropFinal '\r' line ++ '\n' :: pairsToFeeds rest := by
  induction line with
  | nil => rfl
  | cons c line ih =>
    obtain ⟨-, hline⟩ := not_or.1 (List.mem_cons.not.1 h)
    rw [List.cons_append, pairsToFeeds]
    cases line with
    | nil =>
      by_cases hc : c = '\r'
      · rw [hc]
        rfl
      · rw [if_neg (by simp [hc]), dropFinal_of_ne (by simpa using hc)]
        rfl
    | cons d more =>
      have hd : d ≠ '\n' := fun heq => hline (heq ▸ List.mem_cons_self)
      rw [if_neg (by simp [hd]), ih hline, dropFinal_cons (List.cons_ne_nil _ _),
        List.cons_append]

lemma closed_cons (line rest : Text) :
    closed (line ++ '\n' :: rest) = line ++ '\n' :: closed rest := by
  have hlast : (line ++ '\n' :: rest).getLast? = ('\n' :: rest).getLast? :=
    List.getLast?_append_of_ne_nil _ (List.cons_ne_nil _ _)
  unfold closed
  rw [hlast]
  cases rest with
  | nil => simp
  | cons c more =>
    rw [List.getLast?_cons_cons]
    by_cases hfeed : (c :: more).getLast? = some '\n' <;> simp [hfeed]

/-- The lines of a text, each ended by a line feed, are the text with its pairs of line ends made
one, and with the last line ended. -/
lemma flatMap_lines (text : Text) :
    (lines text).flatMap (· ++ ['\n']) = closed (pairsToFeeds text) := by
  induction text using lineInduction with
  | last line h =>
    have hlast : line.getLast? ≠ some '\n' := fun heq => h (List.mem_of_getLast? heq)
    rw [lines_of_not_mem h, pairsToFeeds_of_not_mem h, closed]
    by_cases hne : line = [] <;> simp [hne, hlast]
  | cons line rest h ih =>
    rw [lines_cons h, pairsToFeeds_cons h, closed_cons, List.flatMap_cons, ih, List.append_assoc,
      List.singleton_append]

/-! ## Pairs of line ends -/

lemma feedsToPairs_of_not_mem {line : Text} (h : '\n' ∉ line) : feedsToPairs line = line := by
  induction line with
  | nil => rfl
  | cons c rest ih =>
    obtain ⟨hc, hrest⟩ := not_or.1 (List.mem_cons.not.1 h)
    rw [feedsToPairs, List.flatMap_cons, if_neg (Ne.symm hc), ← feedsToPairs, ih hrest,
      List.singleton_append]

/-- In a text without the pair, line feeds made pairs do not change the lines. -/
lemma lines_feedsToPairs {text : Text} (h : ¬ ['\r', '\n'] <:+: text) :
    lines (feedsToPairs text) = lines text := by
  induction text using lineInduction with
  | last line hline => rw [feedsToPairs_of_not_mem hline]
  | cons line rest hline ih =>
    have hrest : ¬ ['\r', '\n'] <:+: rest := fun hsplit =>
      h (hsplit.trans ⟨line ++ ['\n'], [], by simp⟩)
    have hreturn : line.getLast? ≠ some '\r' := by
      intro hlast
      obtain ⟨before, rfl⟩ := List.getLast?_eq_some_iff.1 hlast
      exact h ⟨before, rest, by simp⟩
    have hpairs : feedsToPairs (line ++ '\n' :: rest) =
        (line ++ ['\r']) ++ '\n' :: feedsToPairs rest := by
      rw [feedsToPairs, List.flatMap_append, List.flatMap_cons, ← feedsToPairs, ← feedsToPairs,
        feedsToPairs_of_not_mem hline]
      simp
    rw [hpairs, lines_cons (by simpa using hline), lines_cons hline, dropFinal_concat,
      dropFinal_of_ne hreturn, ih hrest]

end Text

/-- Lines without a line feed and without a carriage return at their end are read back from every
text that is put together from them.  The lines of any text put it together, hold no line feed, and
are, each ended by a line feed, the text with its pairs of line ends made one and its last line
ended.  So a diff without such pairs is read alike, or refused alike, once its line feeds are made
pairs. -/
theorem lines_undo_joining :
    (∀ ls text, Text.Joins ls text →
      (∀ line ∈ ls, '\n' ∉ line ∧ line.getLast? ≠ some '\r') → Text.lines text = ls) ∧
    (∀ text, Text.Joins (Text.lines text) text ∧ (∀ line ∈ Text.lines text, '\n' ∉ line) ∧
      (Text.lines text).flatMap (· ++ ['\n']) = Text.closed (Text.pairsToFeeds text)) ∧
    ∀ text, ¬ ['\r', '\n'] <:+: text → readDiff (Text.feedsToPairs text) = readDiff text := by
  refine ⟨fun ls text => Text.lines_of_joins, fun text => ?_, fun text h => ?_⟩
  · exact ⟨Text.joins_lines text, fun _ => Text.not_mem_of_mem_lines, Text.flatMap_lines text⟩
  · rw [readDiff, readDiff, Text.lines_feedsToPairs h]

/-- Three lines, one with a carriage return in it and one empty, each ended in another way; and the
small diff with pairs for line ends. -/
theorem joined_of_mixedLines :
    Text.lines "a\rb\r\n\nc".toList = ["a\rb".toList, [], ['c']] ∧
      readDiff (Text.feedsToPairs sampleText) = .ok [sampleFile] := by
  obtain ⟨hjoined, -, hpairs⟩ := lines_undo_joining
  have hfeed : ['\n'] ∈ Text.lineMarks := by decide
  have hpair : ['\r', '\n'] ∈ Text.lineMarks := by decide
  have hjoins : Text.Joins ["a\rb".toList, [], ['c']] "a\rb\r\n\nc".toList :=
    .ended hpair (.ended hfeed (.unended (List.cons_ne_nil _ _)))
  have hreturn : '\r' ∉ sampleText := by decide
  refine ⟨hjoined _ _ hjoins (by decide), ?_⟩
  rw [hpairs sampleText fun h => hreturn (h.subset List.mem_cons_self), readDiff_sampleText]

end DiffSieve
