/-!
# Texts

A text is the list of its characters, so that every offset and every length in this library
counts characters and every operation on texts is an operation on lists.  Strings appear only
as literals and at the outer edge of the program.

Besides the operations of lists, a few are needed again and again: cutting a text at the first
place where another one stands in it, taking what follows the last occurrence of a character,
dropping characters from the end, and reading on after a known lead.
-/

namespace DiffSieve

/-- A text is the list of its characters. -/
abbrev Text := List Char

namespace Text

/-- The text before and the text after the first occurrence of `mark`, if there is one. -/
def cut (mark : Text) : Text → Option (Text × Text)
  | [] => if mark.isEmpty then some ([], []) else none
  | c :: rest =>
    if mark.isPrefixOf (c :: rest) then some ([], (c :: rest).drop mark.length)
    else (cut mark rest).map fun (before, after) => (c :: before, after)

/-- Whether `mark` stands somewhere in the text. -/
def holds (mark text : Text) : Bool :=
  (cut mark text).isSome

/-- What follows the last occurrence of `c`; the whole text if there is none. -/
def afterLast (c : Char) (text : Text) : Text :=
  (text.reverse.takeWhile (· != c)).reverse

/-- The text without the characters at its end that satisfy `p`. -/
def dropEndWhile (p : Char → Bool) (text : Text) : Text :=
  (text.reverse.dropWhile p).reverse

/-- The text without its last character, if that character is `c`. -/
def dropFinal (c : Char) (text : Text) : Text :=
  if text.getLast? = some c then text.dropLast else text

/-- What follows `lead` in a text that opens with it. -/
def after? (lead text : Text) : Option Text :=
  if lead.isPrefixOf text then some (text.drop lead.length) else none

/-- Whether the text opens with one of the given ones. -/
def opensWithAny (leads : List Text) (text : Text) : Bool :=
  leads.any (·.isPrefixOf text)

theorem after?_eq_some_iff {lead text rest : Text} :
    after? lead text = some rest ↔ text = lead ++ rest := by
  unfold after?
  split
  · next h =>
    obtain ⟨tail, rfl⟩ := List.isPrefixOf_iff_prefix.1 h
    simp
  · next h =>
    simp only [reduceCtorEq, false_iff]
    rintro rfl
    exact h (List.isPrefixOf_iff_prefix.2 ⟨rest, rfl⟩)

theorem after?_append (lead rest : Text) : after? lead (lead ++ rest) = some rest :=
  after?_eq_some_iff.2 rfl

theorem cut_eq_append {mark text before after : Text} (h : cut mark text = some (before, after)) :
    text = before ++ mark ++ after := by
  induction text generalizing before after with
  | nil =>
    simp only [cut] at h
    split at h <;> simp_all
  | cons c rest ih =>
    simp only [cut] at h
    split at h
    · next hp =>
      obtain ⟨tail, ht⟩ := List.isPrefixOf_iff_prefix.1 hp
      simp only [Option.some.injEq, Prod.mk.injEq] at h
      obtain ⟨rfl, rfl⟩ := h
      simp [← ht]
    · next hp =>
      obtain ⟨⟨b, a⟩, hb, he⟩ := Option.map_eq_some_iff.1 h
      simp only [Prod.mk.injEq] at he
      obtain ⟨rfl, rfl⟩ := he
      simp [ih hb]

theorem holds_eq_false_of_not_mem {c : Char} {mark text : Text} (h : c ∉ text) :
    holds (c :: mark) text = false := by
  cases hcut : cut (c :: mark) text with
  | none => rw [holds, hcut, Option.isSome_none]
  | some parts =>
    obtain ⟨before, after⟩ := parts
    rw [cut_eq_append hcut] at h
    exact absurd (by simp) h

/-- A text is cut where `mark` was put, if `mark` stands nowhere before. -/
theorem cut_append {mark before after : Text}
    (h : ∀ tail, tail <:+ before → tail ≠ [] → ¬ mark <+: tail ++ (mark ++ after)) :
    cut mark (before ++ (mark ++ after)) = some (before, after) := by
  induction before with
  | nil =>
    rw [List.nil_append]
    cases hword : mark ++ after with
    | nil =>
      obtain ⟨rfl, rfl⟩ := List.append_eq_nil_iff.1 hword
      rfl
    | cons c rest =>
      rw [cut, ← hword, if_pos (List.isPrefixOf_iff_prefix.2 (List.prefix_append _ _)),
        List.drop_left]
  | cons c before ih =>
    have hhere : ¬ mark.isPrefixOf (c :: (before ++ (mark ++ after))) = true := fun hp =>
      h (c :: before) List.suffix_rfl (by simp) (List.isPrefixOf_iff_prefix.1 hp)
    have hlater := ih fun tail ht => h tail (ht.trans (List.suffix_cons c before))
    rw [List.cons_append, cut, if_neg hhere, hlater, Option.map_some]

theorem holds_append (before mark after : Text) :
    holds mark (before ++ (mark ++ after)) = true := by
  induction before with
  | nil =>
    have hcut : cut mark ([] ++ (mark ++ after)) = some ([], after) :=
      cut_append fun tail ht hne => absurd (List.suffix_nil.1 ht) hne
    rw [holds, hcut, Option.isSome_some]
  | cons c before ih =>
    rw [holds, List.cons_append, cut]
    split
    · rfl
    · rw [Option.isSome_map]
      exact ih

/-- A text without the first character of `mark` is cut where `mark` was put after it. -/
theorem cut_append_of_not_mem {c : Char} {mark before : Text} (h : c ∉ before) (after : Text) :
    cut (c :: mark) (before ++ (c :: mark ++ after)) = some (before, after) := by
  refine cut_append fun tail ht hne hp => ?_
  obtain ⟨d, rest, rfl⟩ := List.exists_cons_of_ne_nil hne
  rw [List.cons_append, List.cons_append, List.cons_prefix_cons] at hp
  obtain ⟨rfl, -⟩ := hp
  exact h (ht.subset (.head _))

/-- So is a text without `mark`, if no end of `mark` begins like it. -/
theorem cut_append_of_not_holds {c : Char} {mark before : Text} (hc : c ∉ mark)
    (h : holds (c :: mark) before = false) (after : Text) :
    cut (c :: mark) (before ++ (c :: mark ++ after)) = some (before, after) := by
  refine cut_append fun tail ht hne hp => ?_
  obtain ⟨d, rest, rfl⟩ := List.exists_cons_of_ne_nil hne
  rw [List.cons_append, List.cons_append, List.cons_prefix_cons] at hp
  obtain ⟨rfl, hp⟩ := hp
  by_cases hlength : mark.length ≤ rest.length
  · -- the occurrence ends before the place of the cut
    obtain ⟨later, rfl⟩ := List.prefix_of_prefix_length_le hp (List.prefix_append _ _) hlength
    obtain ⟨earlier, rfl⟩ := ht
    have hholds := holds_append earlier (c :: mark) later
    rw [List.cons_append] at hholds
    rw [hholds] at h
    contradiction
  · -- it reaches beyond, so it holds the first character of the mark once more
    have hinner : rest ++ [c] <+: mark :=
      List.prefix_of_prefix_length_le (by simp) hp (by simp; omega)
    exact hc (hinner.subset (by simp))

end Text
end DiffSieve
