import DiffSieve.Proofs.Tokens.Grammar

/-!
# White space among the tokens

Some questions about a text are asked of its tokens with the white space among them and some of its
tokens without.  Either way the same faults are found (`tokens_eq_error_iff`), and what is found
without white space is what is found with it, less the runs of white space.  A lexeme is such a run
and goes on as far as it can, or it begins and ends with other characters
(`IsLexeme.isBlankRun_or_hasBareEnds`), so that no two runs come together.  Only a line comment may
end in white space, since it goes on to the end of its line.
-/

namespace DiffSieve.Token

/-- Whether a token has no white space at its two ends, the end of a line comment left aside. -/
structure HasBareEnds (token : Token) : Prop where
  first : ∃ c ∈ token.head?, Text.isBlank c = false
  last : ['/', '/'] <+: token ∨ ∃ c ∈ token.getLast?, Text.isBlank c = false

/-! ## The two ends of a token -/

lemma isBlankRun_iff {run : Text} :
    Text.isBlankRun run = true ↔ run ≠ [] ∧ ∀ c ∈ run, Text.isBlank c = true := by
  simp [Text.isBlankRun]

lemma hasBareEnds_of_ends {first last : Char} {inner : Text}
    (hfirst : Text.isBlank first = false) (hlast : Text.isBlank last = false) :
    HasBareEnds (first :: (inner ++ [last])) where
  first := ⟨first, rfl, hfirst⟩
  last := by
    rw [← List.cons_append, List.getLast?_concat]
    exact .inr ⟨last, rfl, hlast⟩

lemma hasBareEnds_of_forall {c : Char} {run : Text}
    (h : ∀ d ∈ c :: run, Text.isBlank d = false) : HasBareEnds (c :: run) where
  first := ⟨c, rfl, h c List.mem_cons_self⟩
  last := by
    have hne : c :: run ≠ [] := List.cons_ne_nil c run
    exact .inr ⟨_, List.getLast?_eq_some_getLast hne, h _ (List.getLast_mem hne)⟩

lemma HasBareEnds.isBlankRun_eq_false {token : Token} (h : HasBareEnds token) :
    Text.isBlankRun token = false := by
  obtain ⟨c, hc, hbare⟩ := h.first
  by_contra hrun
  rw [(isBlankRun_iff.1 (Bool.not_eq_false _ ▸ hrun)).2 c (List.mem_of_mem_head? hc)] at hbare
  contradiction

/-- A token is white space up to the next other character, or it begins and ends with other
characters itself. -/
lemma IsLexeme.isBlankRun_or_hasBareEnds {token : Token} {next : Option Char}
    (h : IsLexeme token next) :
    Text.isBlankRun token = true ∧ (∀ c ∈ next, Text.isBlank c = false) ∨ HasBareEnds token := by
  cases h with
  | blank hne hrun hnext => exact .inl ⟨isBlankRun_iff.2 ⟨hne, hrun⟩, hnext⟩
  | template => exact .inr (hasBareEnds_of_ends rfl rfl)
  | string hquote =>
    have hblank := isBlank_of_isStringQuote hquote
    exact .inr (hasBareEnds_of_ends hblank hblank)
  | lineComment => exact .inr ⟨⟨'/', rfl, rfl⟩, .inl (List.prefix_append ['/', '/'] _)⟩
  | @blockComment inner =>
    have hends : HasBareEnds ('/' :: ('*' :: inner ++ ['*'] ++ ['/'])) :=
      hasBareEnds_of_ends rfl rfl
    exact .inr (by simpa using hends)
  | name hstart hrun =>
    refine .inr (hasBareEnds_of_forall (List.forall_mem_cons.2 ⟨?_, fun d hd => ?_⟩))
    · exact isBlank_of_isIdentifierPart (by simp [isIdentifierPart, hstart])
    · exact isBlank_of_isIdentifierPart (hrun d hd)
  | number hstart hrun =>
    refine .inr (hasBareEnds_of_forall (List.forall_mem_cons.2 ⟨?_, fun d hd => ?_⟩))
    · exact isBlank_of_isNumberPart (by simp [isNumberPart, hstart])
    · exact isBlank_of_isNumberPart (hrun d hd)
  | mark hblank => exact .inr (hasBareEnds_of_forall (List.forall_mem_singleton.2 hblank))

/-- No two runs of white space come together. -/
lemma AreLexemes.isChain {ts : List Token} {rest : Text} (h : AreLexemes ts rest) :
    ts.IsChain fun first second =>
      ¬ (Text.isBlankRun first = true ∧ Text.isBlankRun second = true) := by
  induction ts with
  | nil => exact .nil
  | cons token later ih =>
    cases later with
    | nil => exact .singleton token
    | cons second later =>
      refine .cons_cons ?_ (ih h.2)
      rintro ⟨htoken, hsecond⟩
      rcases h.1.isBlankRun_or_hasBareEnds with ⟨-, hnext⟩ | hbare
      · obtain ⟨c, run, rfl⟩ := List.exists_cons_of_ne_nil h.2.1.ne_nil
        have hc := (isBlankRun_iff.1 hsecond).2 c List.mem_cons_self
        rw [hnext c rfl] at hc
        contradiction
      · rw [hbare.isBlankRun_eq_false] at htoken
        contradiction

/-! ## With white space and without -/

lemma tokens_eq_error_iff {text : Text} {fault : Unterminated} :
    tokens text = .error fault ↔ tokensWithBlanks text = .error fault := by
  rw [tokens, tokensWithBlanks, tokensFrom_eq_error_iff, tokensFrom_eq_error_iff]

lemma tokens_of_splits {text : Text} {ts : List Token} (h : Splits text ts) :
    tokens text = .ok (ts.filter (!Text.isBlankRun ·)) :=
  tokens_eq_ok_iff.2 ⟨ts, h, rfl⟩

/-- Whether the white space among the tokens of a text is kept or left out matters for nothing
else: the faults are the same, and the other tokens are the same in the same order.  Where it is
kept, no two runs of it come together, and the other tokens have none at their ends. -/
theorem white_space_is_kept_or_left_out (text : Text) :
    (∃ fault, tokens text = .error fault ∧ tokensWithBlanks text = .error fault) ∨
      ∃ ts, tokensWithBlanks text = .ok ts ∧ tokens text = .ok (ts.filter (!Text.isBlankRun ·)) ∧
        ts.IsChain (fun first second =>
          ¬ (Text.isBlankRun first = true ∧ Text.isBlankRun second = true)) ∧
        ∀ token ∈ ts, Text.isBlankRun token = true ∨ HasBareEnds token := by
  cases h : tokensWithBlanks text with
  | error fault => exact .inl ⟨fault, tokens_eq_error_iff.2 h, rfl⟩
  | ok ts =>
    have hsplits := tokensWithBlanks_eq_ok_iff.1 h
    have hts := (splits_iff.1 hsplits).2
    refine .inr ⟨ts, rfl, tokens_of_splits hsplits, hts.isChain, fun token hmem => ?_⟩
    obtain ⟨next, hnext⟩ := hts.exists_isLexeme token hmem
    exact hnext.isBlankRun_or_hasBareEnds.imp_left And.left

end DiffSieve.Token
