import DiffSieve.Text.Blank
import DiffSieve.Text.Lines
import Mathlib.Data.List.TakeWhile

/-!
# Lines that were written

Texts without a line feed, each ended by one, are read back as lines up to one carriage return at
the end of each (`lines_terminated`).  That carriage return is the last character of what was
written, so it never touches the words a line opens with (`dropFinal_append`), and it is blank, so
a trimmed text does not notice it (`trim_dropFinal`).

A text may also be read in two parts: if the first part ends at a line end, the lines of the whole
are the lines of the parts (`lines_append`).  With a single line for the first part this is the
equation `lines_cons`, and `lineInduction` is the induction that goes with it.
-/

namespace DiffSieve.Text

/-! ## Lines -/

lemma splitOn_terminated {ls : List Text} (h : ∀ l ∈ ls, '\n' ∉ l) :
    (ls.flatMap (· ++ ['\n'])).splitOn '\n' = ls ++ [[]] := by
  induction ls with
  | nil => rfl
  | cons line rest ih =>
    have hline := h line (.head _)
    have hrest := ih fun l hl => h l (.tail _ hl)
    rw [List.flatMap_cons, List.append_assoc, List.singleton_append,
      List.splitOn_append_cons_self_of_not_mem hline, hrest, List.cons_append]

lemma linesOfPieces_append (close : Text → Text) (first : List Text) {second : List Text}
    (h : second ≠ []) :
    linesOfPieces close (first ++ second) = first.map close ++ linesOfPieces close second := by
  induction first with
  | nil => rfl
  | cons piece rest ih =>
    rw [List.cons_append, linesOfPieces, ih, List.map_cons, List.cons_append]
    simp [h]

/-- Texts without a line feed, each ended by one, are the lines read, up to one carriage return at
the end of each. -/
lemma lines_terminated {ls : List Text} (h : ∀ l ∈ ls, '\n' ∉ l) :
    lines (ls.flatMap (· ++ ['\n'])) = ls.map (dropFinal '\r') := by
  rw [lines, splitOn_terminated h, linesOfPieces_append _ _ (List.cons_ne_nil _ _)]
  exact List.append_nil _

/-! ## The last character -/

lemma dropFinal_of_ne {c : Char} {text : Text} (h : text.getLast? ≠ some c) :
    dropFinal c text = text :=
  if_neg h

lemma dropFinal_concat (c : Char) (text : Text) : dropFinal c (text ++ [c]) = text := by
  simp [dropFinal]

/-- What a text opens with stays, if `c` is not its last character. -/
lemma dropFinal_append {c : Char} {lead : Text} (h : lead.getLast? ≠ some c) (text : Text) :
    dropFinal c (lead ++ text) = lead ++ dropFinal c text := by
  rcases List.eq_nil_or_concat text with rfl | ⟨before, last, rfl⟩
  · rw [List.append_nil, dropFinal_of_ne h, dropFinal_of_ne (by simp), List.append_nil]
  · by_cases hlast : last = c
    · subst hlast
      rw [List.concat_eq_append, ← List.append_assoc, dropFinal_concat, dropFinal_concat]
    · rw [dropFinal_of_ne (by simp [hlast]), dropFinal_of_ne (by simp [hlast])]

/-- A text is itself, or itself with `c` at its end. -/
lemma eq_dropFinal_or (c : Char) (text : Text) :
    text = dropFinal c text ∨ text = dropFinal c text ++ [c] := by
  rcases List.eq_nil_or_concat text with rfl | ⟨before, last, rfl⟩
  · exact .inl rfl
  · by_cases hlast : last = c
    · subst hlast
      right
      rw [List.concat_eq_append, dropFinal_concat]
    · left
      rw [dropFinal_of_ne (by simp [hlast])]

lemma dropFinal_cons {c : Char} {text : Text} (h : text ≠ []) (first : Char) :
    dropFinal c (first :: text) = first :: dropFinal c text := by
  obtain ⟨d, rest, rfl⟩ := List.exists_cons_of_ne_nil h
  rw [dropFinal, dropFinal, List.getLast?_cons_cons, List.dropLast_cons_cons]
  split <;> rfl

lemma dropFinal_subset (c : Char) (text : Text) : dropFinal c text ⊆ text := by
  unfold dropFinal
  split
  · exact (List.dropLast_sublist text).subset
  · exact List.Subset.refl text

/-! ## Texts that go on -/

/-- After a line end the lines of a text are those before it and those after it. -/
lemma lines_append {first : Text} (h : first = [] ∨ first.getLast? = some '\n') (second : Text) :
    lines (first ++ second) = lines first ++ lines second := by
  rcases h with rfl | h
  · rfl
  · obtain ⟨before, rfl⟩ := List.getLast?_eq_some_iff.1 h
    have hsplit : ∀ after : Text, lines (before ++ '\n' :: after) =
        (before.splitOn '\n').map (dropFinal '\r') ++ lines after := by
      intro after
      rw [lines, List.splitOn_append_cons_self, linesOfPieces_append _ _ (List.splitOn_ne_nil _ _)]
      rfl
    have hnil : lines [] = [] := rfl
    rw [List.append_assoc, List.singleton_append, hsplit, hsplit, hnil, List.append_nil]

/-- The first line opens with what the text opens with, be its end a carriage return or not. -/
lemma prefix_of_mem_head?_lines {lead : Text} (hfeed : '\n' ∉ lead)
    (hreturn : lead.getLast? ≠ some '\r') (rest : Text) :
    ∀ line ∈ (lines (lead ++ rest)).head?, lead <+: line := by
  intro line hl
  by_cases hmem : '\n' ∈ rest
  · obtain ⟨first, later, rfl, hfirst⟩ := List.eq_append_cons_of_mem hmem
    have hnot : '\n' ∉ lead ++ first := by simp [hfeed, hfirst]
    obtain ⟨piece, more, hpieces⟩ := List.exists_cons_of_ne_nil (List.splitOn_ne_nil '\n' later)
    have hsplit : (lead ++ (first ++ '\n' :: later)).splitOn '\n' =
        (lead ++ first) :: piece :: more := by
      rw [← List.append_assoc, List.splitOn_append_cons_self_of_not_mem hnot, hpieces]
    rw [lines, hsplit, linesOfPieces, dropFinal_append hreturn] at hl
    · obtain rfl := Option.some.inj hl
      exact List.prefix_append _ _
    · exact List.cons_ne_nil _ _
  · have hnot : '\n' ∉ lead ++ rest := by simp [hfeed, hmem]
    rw [lines, List.splitOn_eq_singleton hnot, linesOfPieces] at hl
    split at hl
    · cases hl
    · obtain rfl := Option.some.inj hl
      exact List.prefix_append _ _

/-! ## Line by line -/

/-- What holds of texts without a line feed, and of a line with a line feed before a text of which
it holds, holds of every text. -/
lemma lineInduction {P : Text → Prop} (last : ∀ line, '\n' ∉ line → P line)
    (cons : ∀ line rest, '\n' ∉ line → P rest → P (line ++ '\n' :: rest)) (text : Text) :
    P text := by
  induction hlength : text.length using Nat.strong_induction_on generalizing text with
  | _ n ih =>
    by_cases hmem : '\n' ∈ text
    · obtain ⟨line, rest, rfl, hline⟩ := List.eq_append_cons_of_mem hmem
      refine cons line rest hline (ih rest.length ?_ rest rfl)
      rw [← hlength, List.length_append, List.length_cons]
      omega
    · exact last text hmem

lemma lines_of_not_mem {line : Text} (h : '\n' ∉ line) :
    lines line = if line = [] then [] else [line] := by
  rw [lines, List.splitOn_eq_singleton h, linesOfPieces]
  simp only [List.isEmpty_iff]

lemma lines_cons {line : Text} (h : '\n' ∉ line) (rest : Text) :
    lines (line ++ '\n' :: rest) = dropFinal '\r' line :: lines rest := by
  have hfirst : lines (line ++ ['\n']) = [dropFinal '\r' line] := by
    have hone : ∀ l ∈ [line], '\n' ∉ l := by simpa using h
    simpa using lines_terminated hone
  have hsplit : line ++ '\n' :: rest = (line ++ ['\n']) ++ rest := by simp
  rw [hsplit, lines_append (.inr List.getLast?_concat), hfirst, List.singleton_append]

lemma not_mem_of_mem_lines {text line : Text} (h : line ∈ lines text) : '\n' ∉ line := by
  induction text using lineInduction with
  | last first hfirst =>
    rw [lines_of_not_mem hfirst] at h
    split at h
    · cases h
    · rwa [List.mem_singleton.1 h]
  | cons first rest hfirst ih =>
    rw [lines_cons hfirst] at h
    rcases List.mem_cons.1 h with rfl | h
    · exact fun hmem => hfirst (dropFinal_subset _ _ hmem)
    · exact ih h

/-! ## White space at the ends -/

lemma trim_cons {c : Char} (h : isBlank c = true) (text : Text) :
    trim (c :: text) = trim text := by
  rw [trim, List.dropWhile_cons_of_pos h, trim]

lemma trim_concat {c : Char} (h : isBlank c = true) (text : Text) :
    trim (text ++ [c]) = trim text := by
  unfold trim dropEndWhile
  rw [List.dropWhile_append]
  by_cases hnil : text.dropWhile isBlank = []
  · simp [hnil, h]
  · simp [hnil, h]

lemma trim_dropFinal {c : Char} (h : isBlank c = true) (text : Text) :
    trim (dropFinal c text) = trim text := by
  rcases eq_dropFinal_or c text with heq | heq
  · rw [← heq]
  · calc trim (dropFinal c text) = trim (dropFinal c text ++ [c]) := (trim_concat h _).symm
      _ = trim text := by rw [← heq]

/-- A trimmed text does not end with white space. -/
lemma getLast?_of_trim_eq_self {c : Char} {text : Text} (h : trim text = text)
    (hc : isBlank c = true) : text.getLast? ≠ some c := by
  intro hlast
  have hhead := List.head?_dropWhile_not isBlank (text.dropWhile isBlank).reverse
  have hfirst : ((text.dropWhile isBlank).reverse.dropWhile isBlank).head? = some c := by
    rw [← List.getLast?_reverse, ← dropEndWhile, ← trim, h, hlast]
  rw [hfirst] at hhead
  simp only at hhead
  rw [hhead] at hc
  contradiction

end DiffSieve.Text
