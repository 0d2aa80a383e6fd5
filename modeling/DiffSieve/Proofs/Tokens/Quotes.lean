import DiffSieve.Noise.Likeness
import DiffSieve.Proofs.Tokens.Splits
import Mathlib.Data.List.Forall2

/-!
# Quotes that delimit and quotes that stand inside

Lines that differ in their quotes only agree in all other characters.  Outside literals and comments
a quote is a delimiter, and exchanging it for one of another kind leaves the tokens where they are.
Inside it is content, and a quote that delimits in one line may be content in the other: then the
tokens of the two lines need not even begin at the same places.  `nestedQuotes?` says which quotes
of a line are content, and the tokens of two such lines are alike up to the delimiters of their
literals exactly if these are the same quotes at the same places (`only_delimiters_differ_iff`).
-/

namespace DiffSieve.Likeness

open Token

/-! ## Quotes exchanged for quotes -/

/-- Whether a character delimits string or template literals. -/
def isQuote (c : Char) : Bool :=
  isStringQuote c || c = backtick

lemma isQuote_iff {c : Char} : isQuote c = true ↔ c = '\x27' ∨ c = '\x22' ∨ c = backtick := by
  simp [isQuote, isStringQuote, or_assoc]

lemma unifyQuote_of_isQuote {c : Char} (h : isQuote c = true) : unifyQuote c = '\x22' :=
  if_pos h

lemma unifyQuote_of_not_isQuote {c : Char} (h : isQuote c = false) : unifyQuote c = c :=
  if_neg (by rw [isQuote] at h; simp [h])

/-- A question that has the same answer for all quotes has the same answer for a text with its
quotes made equal. -/
lemma apply_unifyQuote {α : Type} {p : Char → α} (hsingle : p '\x27' = p '\x22')
    (hback : p backtick = p '\x22') (c : Char) : p (unifyQuote c) = p c := by
  cases hc : isQuote c with
  | false => rw [unifyQuote_of_not_isQuote hc]
  | true =>
    rw [unifyQuote_of_isQuote hc]
    rcases isQuote_iff.1 hc with rfl | rfl | rfl
    · exact hsingle.symm
    · rfl
    · exact hback.symm

lemma isQuote_unifyQuote (c : Char) : isQuote (unifyQuote c) = isQuote c :=
  apply_unifyQuote rfl rfl c

lemma isQuote_congr {c d : Char} (h : unifyQuote c = unifyQuote d) : isQuote c = isQuote d := by
  rw [← isQuote_unifyQuote, h, isQuote_unifyQuote]

lemma unifyQuote_eq_iff {c d : Char} :
    unifyQuote c = unifyQuote d ↔ c = d ∨ isQuote c = true ∧ isQuote d = true := by
  constructor
  · intro h
    have hquote := isQuote_congr h
    cases hd : isQuote d with
    | true => exact .inr ⟨hquote.trans hd, rfl⟩
    | false =>
      left
      rw [← unifyQuote_of_not_isQuote (hquote.trans hd), h, unifyQuote_of_not_isQuote hd]
  · rintro (rfl | ⟨hc, hd⟩)
    · rfl
    · rw [unifyQuote_of_isQuote hc, unifyQuote_of_isQuote hd]

lemma length_takeWhile_map_unifyQuote {p : Char → Bool} (hp : ∀ c, p (unifyQuote c) = p c)
    (text : Text) : ((text.map unifyQuote).takeWhile p).length = (text.takeWhile p).length := by
  have hcomp : p ∘ unifyQuote = p := funext hp
  rw [List.takeWhile_map, hcomp, List.length_map]

lemma opening_map_unifyQuote (c : Char) (text : Text) :
    opening c (text.map unifyQuote).head? = opening c text.head? := by
  cases text with
  | nil => rfl
  | cons d text =>
    have hslash := apply_unifyQuote (p := fun d => decide (d = '/')) rfl rfl d
    have hstar := apply_unifyQuote (p := fun d => decide (d = '*')) rfl rfl d
    simp only [decide_eq_decide] at hslash hstar
    simp [opening, hslash, hstar]

lemma closingComment_map_unifyQuote (text : Text) :
    closingComment (text.map unifyQuote) = closingComment text := by
  induction text with
  | nil => rfl
  | cons c rest ih =>
    have hlead : ['*', '/'].isPrefixOf (unifyQuote c :: rest.map unifyQuote) =
        ['*', '/'].isPrefixOf (c :: rest) := by
      have hstar := apply_unifyQuote (p := fun d => '*' == d) rfl rfl c
      cases rest with
      | nil => simp [List.isPrefixOf, hstar]
      | cons d rest =>
        have hslash := apply_unifyQuote (p := fun d => '/' == d) rfl rfl d
        simp [List.isPrefixOf, hstar, hslash]
    rw [List.map_cons, closingComment, closingComment, hlead, ih]

/-- Exchanged quotes do not matter for how far a token reaches, unless it is a literal. -/
lemma reach_map_unifyQuote {c : Char} (hc : isQuote c = false) (rest : Text) :
    reach c (rest.map unifyQuote) = reach c rest := by
  rw [reach_eq, reach_eq, opening_map_unifyQuote]
  cases hopens : opening c rest.head? with
  | literal kind spansLines =>
    have hquote := quote_of_opening hopens
    simp [isQuote] at hc
    simp [hc] at hquote
  | blockComment =>
    rw [Opening.reach, Opening.reach, ← List.map_tail, closingComment_map_unifyQuote]
  | blank | lineComment | name | number =>
    rw [Opening.reach, Opening.reach,
      length_takeWhile_map_unifyQuote (apply_unifyQuote (by decide) (by decide))]
  | mark => rfl

lemma reach_congr {c : Char} (hc : isQuote c = false) {rest rest' : Text}
    (h : rest.map unifyQuote = rest'.map unifyQuote) : reach c rest = reach c rest' := by
  rw [← reach_map_unifyQuote hc, h, reach_map_unifyQuote hc]

/-! ## Literals -/

/-- A closing quote stands where it was found. -/
lemma exists_of_closingQuote {quote : Char} {spansLines escaped : Bool} {text : Text} {n : Nat}
    (h : closingQuote quote spansLines escaped text = some n) :
    ∃ inner after, text = inner ++ quote :: after ∧ n = inner.length + 1 := by
  fun_induction closingQuote quote spansLines escaped text generalizing n with
  | case1 | case2 => contradiction
  | case3 c rest _ ih =>
    obtain ⟨m, hm, rfl⟩ := Option.map_eq_some_iff.1 h
    obtain ⟨inner, after, rfl, rfl⟩ := ih hm
    exact ⟨c :: inner, after, rfl, rfl⟩
  | case4 escaped rest _ _ ih =>
    obtain ⟨m, hm, rfl⟩ := Option.map_eq_some_iff.1 h
    obtain ⟨inner, after, rfl, rfl⟩ := ih hm
    exact ⟨_ :: inner, after, rfl, rfl⟩
  | case5 escaped rest =>
    cases h
    exact ⟨[], rest, rfl, rfl⟩
  | case6 escaped c rest _ _ _ _ ih =>
    obtain ⟨m, hm, rfl⟩ := Option.map_eq_some_iff.1 h
    obtain ⟨inner, after, rfl, rfl⟩ := ih hm
    exact ⟨c :: inner, after, rfl, rfl⟩

lemma opening_of_isQuote {c : Char} (hc : isQuote c = true) (next : Option Char) :
    ∃ kind spansLines, opening c next = .literal kind spansLines := by
  rcases isQuote_iff.1 hc with rfl | rfl | rfl
  · exact ⟨_, _, rfl⟩
  · exact ⟨_, _, rfl⟩
  · exact ⟨_, _, rfl⟩

/-- A literal ends with the quote that it opens with. -/
lemma exists_of_reach {c : Char} (hc : isQuote c = true) {rest : Text} {n : Nat}
    (h : reach c rest = .ok n) :
    ∃ inner after, rest = inner ++ c :: after ∧ rest.take n = inner ++ [c] ∧
      rest.drop n = after := by
  obtain ⟨kind, spansLines, hopens⟩ := opening_of_isQuote hc rest.head?
  rw [reach_eq, hopens] at h
  obtain ⟨inner, after, rfl, rfl⟩ := exists_of_closingQuote (orUnclosed_eq_ok_iff.1 h)
  have hsplit : inner ++ c :: after = (inner ++ [c]) ++ after := by simp
  have hlength : inner.length + 1 = (inner ++ [c]).length := by simp
  refine ⟨inner, after, rfl, ?_, ?_⟩
  · rw [hsplit, hlength, List.take_left]
  · rw [hsplit, hlength, List.drop_left]

/-! ## Quotes inside tokens -/

/-- Whether a token is a string or a template literal. -/
def isLiteral (token : Token) : Bool :=
  token.head?.any isQuote

/-- A literal without its delimiters. -/
def body (token : Token) : Text :=
  token.tail.dropLast

/-- Whether two tokens are the same, or literals that differ in their delimiters only. -/
def SameUpToDelimiters (old new : Token) : Prop :=
  old = new ∨ isLiteral old = true ∧ isLiteral new = true ∧ body old = body new

/-- The quote that a character is, if it is one. -/
def quote? (c : Char) : Option Char :=
  if isQuote c then some c else none

/-- For each character of a token the quote that it is; none for the delimiters of a literal. -/
def nestedIn (token : Token) : List (Option Char) :=
  if isLiteral token then none :: (body token).map quote? ++ [none] else token.map quote?

/-- For each character of a text the quote that it is inside a literal or a comment; none for the
characters elsewhere. -/
def nestedQuotes? (text : Text) : Option (List (Option Char)) :=
  (tokensWithBlanks text).toOption.map (·.flatMap nestedIn)

lemma quote?_eq_none_iff {c : Char} : quote? c = none ↔ isQuote c = false := by
  simp [quote?]

lemma eq_of_unifyQuote {c d : Char} (h : unifyQuote c = unifyQuote d)
    (hquote : quote? c = quote? d) : c = d := by
  rcases unifyQuote_eq_iff.1 h with heq | ⟨hc, hd⟩
  · exact heq
  · rw [quote?, if_pos hc, quote?, if_pos hd] at hquote
    exact Option.some.inj hquote

lemma eq_of_map_unifyQuote {old new : Text} (h : old.map unifyQuote = new.map unifyQuote)
    (hquote : old.map quote? = new.map quote?) : old = new := by
  induction old generalizing new with
  | nil => exact (List.map_eq_nil_iff.1 h.symm).symm
  | cons c old ih =>
    cases new with
    | nil => contradiction
    | cons d new =>
      simp only [List.map_cons, List.cons.injEq] at h hquote
      rw [ih h.2 hquote.2, eq_of_unifyQuote h.1 hquote.1]

lemma body_literal (c : Char) (inner : Text) : body (c :: (inner ++ [c])) = inner := by
  simp [body]

lemma isLiteral_cons (c : Char) (rest : Text) : isLiteral (c :: rest) = isQuote c :=
  Option.any_some

lemma nestedIn_literal {c : Char} (hc : isQuote c = true) (inner : Text) :
    nestedIn (c :: (inner ++ [c])) = none :: inner.map quote? ++ [none] := by
  rw [nestedIn, isLiteral_cons, if_pos hc, body_literal]

lemma nestedIn_of_not_literal {c : Char} (hc : isQuote c = false) (rest : Text) :
    nestedIn (c :: rest) = (c :: rest).map quote? := by
  rw [nestedIn, isLiteral_cons, if_neg (by simp [hc])]

section

variable {c d : Char} (hc : isQuote c = true) (hd : isQuote d = true)
include hc hd

lemma sameUpToDelimiters_literals_iff (inner inner' : Text) :
    SameUpToDelimiters (c :: (inner ++ [c])) (d :: (inner' ++ [d])) ↔ inner = inner' := by
  rw [SameUpToDelimiters, isLiteral_cons, isLiteral_cons, body_literal, body_literal]
  constructor
  · rintro (heq | ⟨-, -, heq⟩)
    · simpa only [body_literal] using congrArg body heq
    · exact heq
  · exact fun heq => .inr ⟨hc, hd, heq⟩

/-- The quotes inside two literals and after them tell where the first literals end. -/
lemma inner_eq_of_nested {inner inner' after after' : Text} {rest rest' : List (Option Char)}
    (h : (inner ++ c :: after).map unifyQuote = (inner' ++ d :: after').map unifyQuote)
    (hnested : inner.map quote? ++ none :: rest = inner'.map quote? ++ none :: rest') :
    inner = inner' := by
  -- if one of them ends first, the other one holds the quote that closes it
  have hclash {x y : Char} (hx : isQuote x = true) (h : unifyQuote x = unifyQuote y) :
      none ≠ quote? y := fun hnone => by
    rw [isQuote_congr h, quote?_eq_none_iff.1 hnone.symm] at hx
    contradiction
  induction inner generalizing inner' with
  | nil =>
    cases inner' with
    | nil => rfl
    | cons y inner' =>
      simp only [List.cons_append, List.nil_append, List.map_cons, List.map_nil,
        List.cons.injEq] at h hnested
      exact absurd hnested.1 (hclash hc h.1)
  | cons x inner ih =>
    cases inner' with
    | nil =>
      simp only [List.cons_append, List.nil_append, List.map_cons, List.map_nil,
        List.cons.injEq] at h hnested
      exact absurd hnested.1.symm (hclash hd h.1.symm)
    | cons y inner' =>
      simp only [List.cons_append, List.map_cons, List.cons.injEq] at h hnested
      rw [eq_of_unifyQuote h.1 hnested.1, ih h.2 hnested.2]

lemma nestedIn_literal_append_iff {inner inner' after after' : Text}
    {later later' : List (Option Char)}
    (h : (inner ++ c :: after).map unifyQuote = (inner' ++ d :: after').map unifyQuote) :
    nestedIn (c :: (inner ++ [c])) ++ later = nestedIn (d :: (inner' ++ [d])) ++ later' ↔
      inner = inner' ∧ later = later' := by
  rw [nestedIn_literal hc, nestedIn_literal hd]
  constructor
  · intro hnested
    simp only [List.append_assoc, List.cons_append, List.nil_append, List.cons.injEq,
      true_and] at hnested
    have heq := inner_eq_of_nested hc hd h hnested
    subst heq
    exact ⟨rfl, by simpa using hnested⟩
  · rintro ⟨rfl, rfl⟩
    rfl

end

/-! ## The tokens of two lines with other quotes -/

lemma isBlank_of_isQuote {c : Char} (h : isQuote c = true) : Text.isBlank c = false := by
  rcases isQuote_iff.1 h with rfl | rfl | rfl <;> decide

lemma filter_cons_of_reach {c : Char} {rest : Text} {n : Nat} (hr : reach c rest = .ok n)
    (later : List Token) :
    ((c :: rest.take n) :: later).filter (!Text.isBlankRun ·) =
      if Text.isBlank c then later.filter (!Text.isBlankRun ·)
      else (c :: rest.take n) :: later.filter (!Text.isBlankRun ·) := by
  rw [List.filter_cons, isBlankRun_of_reach hr]
  cases Text.isBlank c <;> rfl

lemma nestedIn_append_iff {c : Char} (hc : isQuote c = false) {rest rest' : Text}
    {later later' : List (Option Char)} (h : rest.map unifyQuote = rest'.map unifyQuote) :
    nestedIn (c :: rest) ++ later = nestedIn (c :: rest') ++ later' ↔
      c :: rest = c :: rest' ∧ later = later' := by
  have hmap : (c :: rest).map unifyQuote = (c :: rest').map unifyQuote := by
    rw [List.map_cons, h, List.map_cons]
  have hlength : (c :: rest).length = (c :: rest').length := by
    simpa only [List.length_map] using congrArg List.length hmap
  rw [nestedIn_of_not_literal hc, nestedIn_of_not_literal hc]
  constructor
  · intro hnested
    obtain ⟨hhere, hthere⟩ := List.append_inj hnested (by simpa only [List.length_map])
    exact ⟨eq_of_map_unifyQuote hmap hhere, hthere⟩
  · rintro ⟨hhere, hthere⟩
    rw [hhere, hthere]

lemma nestedIn_of_isBlankRun {c : Char} {rest : Text}
    (h : Text.isBlankRun (c :: rest) = true) :
    nestedIn (c :: rest) = List.replicate (c :: rest).length none := by
  have hall : ∀ d ∈ c :: rest, isQuote d = false := by
    intro d hd
    simp only [Text.isBlankRun, Bool.and_eq_true, List.all_eq_true] at h
    have hblank := h.2 d hd
    by_contra hquote
    rw [isBlank_of_isQuote (Bool.not_eq_false _ ▸ hquote)] at hblank
    contradiction
  rw [nestedIn_of_not_literal (hall c List.mem_cons_self)]
  exact List.map_eq_replicate_iff.2 fun d hd => quote?_eq_none_iff.2 (hall d hd)

lemma sameUpToDelimiters_iff {c : Char} (hc : isQuote c = false) (rest rest' : Text) :
    SameUpToDelimiters (c :: rest) (c :: rest') ↔ c :: rest = c :: rest' := by
  rw [SameUpToDelimiters, isLiteral_cons, hc]
  simp

/-- The tokens of two texts that agree up to their quotes are alike up to the delimiters of
literals exactly if the texts hold the same quotes inside their tokens. -/
lemma forall₂_iff_nested {old new : Text} {oldTokens newTokens : List Token}
    (h : old.map unifyQuote = new.map unifyQuote) (hold : Splits old oldTokens)
    (hnew : Splits new newTokens) :
    List.Forall₂ SameUpToDelimiters (oldTokens.filter (!Text.isBlankRun ·))
        (newTokens.filter (!Text.isBlankRun ·)) ↔
      oldTokens.flatMap nestedIn = newTokens.flatMap nestedIn := by
  induction hold generalizing new newTokens with
  | nil =>
    obtain rfl := List.map_eq_nil_iff.1 h.symm
    cases hnew
    simp
  | @cons c rest n later hr hl ih =>
    cases new with
    | nil => contradiction
    | cons d rest' =>
      simp only [List.map_cons, List.cons.injEq] at h
      obtain ⟨hhead, htail⟩ := h
      obtain ⟨n', later', hr', hl', rfl⟩ := splits_cons_iff.1 hnew
      rw [filter_cons_of_reach hr, filter_cons_of_reach hr', List.flatMap_cons, List.flatMap_cons]
      cases hc : isQuote c with
      | true =>
        have hd : isQuote d = true := (isQuote_congr hhead).symm.trans hc
        obtain ⟨inner, after, rfl, htake, hdrop⟩ := exists_of_reach hc hr
        obtain ⟨inner', after', rfl, htake', hdrop'⟩ := exists_of_reach hd hr'
        -- the rests are alike as soon as the two literals hold the same
        have hlater (heq : inner = inner') := by
          subst heq
          simp only [List.map_append, List.map_cons, List.append_cancel_left_eq,
            List.cons.injEq] at htail
          exact ih ((congrArg _ hdrop).trans htail.2) (hdrop' ▸ hl')
        rw [isBlank_of_isQuote hc, isBlank_of_isQuote hd, if_neg Bool.false_ne_true,
          if_neg Bool.false_ne_true, List.forall₂_cons, htake, htake',
          sameUpToDelimiters_literals_iff hc hd, nestedIn_literal_append_iff hc hd htail]
        exact and_congr_right hlater
      | false =>
        obtain rfl : c = d := by
          rcases unifyQuote_eq_iff.1 hhead with heq | ⟨hquote, -⟩
          · exact heq
          · rw [hc] at hquote
            contradiction
        obtain rfl : n = n' := Except.ok.inj (hr.symm.trans ((reach_congr hc htail).trans hr'))
        have htake : (rest.take n).map unifyQuote = (rest'.take n).map unifyQuote := by
          rw [List.map_take, htail, List.map_take]
        have hdrop : (rest.drop n).map unifyQuote = (rest'.drop n).map unifyQuote := by
          rw [List.map_drop, htail, List.map_drop]
        have hlater := ih hdrop hl'
        cases hblank : Text.isBlank c with
        | true =>
          have hlength : (c :: rest.take n).length = (c :: rest'.take n).length := by
            simpa using congrArg List.length htake
          rw [if_pos rfl, if_pos rfl, hlater,
            nestedIn_of_isBlankRun ((isBlankRun_of_reach hr).trans hblank),
            nestedIn_of_isBlankRun ((isBlankRun_of_reach hr').trans hblank), hlength,
            List.append_cancel_left_eq]
        | false =>
          rw [if_neg Bool.false_ne_true, if_neg Bool.false_ne_true, List.forall₂_cons,
            sameUpToDelimiters_iff hc, nestedIn_append_iff hc htake]
          exact and_congr_right fun _ => hlater

lemma nestedQuotes?_of_splits {text : Text} {ts : List Token} (h : Splits text ts) :
    nestedQuotes? text = some (ts.flatMap nestedIn) := by
  rw [nestedQuotes?, tokensWithBlanks_eq_ok_iff.2 h]
  rfl

/-- Two lines that differ in their quotes only agree wherever one of them has no quote.  Their
tokens are the same up to the delimiters of literals exactly if the lines hold the same quotes at
the same places inside literals and comments. -/
theorem only_delimiters_differ_iff {old new : Text} {oldTokens newTokens : List Token}
    (h : onlyQuotes old new = true) (hold : tokens old = .ok oldTokens)
    (hnew : tokens new = .ok newTokens) :
    List.Forall₂ (fun c d => c = d ∨ isQuote c = true ∧ isQuote d = true) old new ∧
      (List.Forall₂ SameUpToDelimiters oldTokens newTokens ↔
        nestedQuotes? old = nestedQuotes? new) := by
  simp only [onlyQuotes, Bool.and_eq_true, beq_iff_eq] at h
  have hmap := h.2.1
  constructor
  · have hall : List.Forall₂ (· = ·) (old.map unifyQuote) (new.map unifyQuote) :=
      List.forall₂_eq_eq_eq ▸ hmap
    rw [List.forall₂_map_left_iff, List.forall₂_map_right_iff] at hall
    exact hall.imp fun c d => unifyQuote_eq_iff.1
  · obtain ⟨oldAll, holdAll, rfl⟩ := tokens_eq_ok_iff.1 hold
    obtain ⟨newAll, hnewAll, rfl⟩ := tokens_eq_ok_iff.1 hnew
    rw [forall₂_iff_nested hmap holdAll hnewAll, nestedQuotes?_of_splits holdAll,
      nestedQuotes?_of_splits hnewAll, Option.some.injEq]

/-- A call with a quote of the other kind inside one of its literals, in two styles. -/
def requoted : Text × Text :=
  ("f('a', \"b'c\")".toList, "f(\"a\", \"b'c\")".toList)

theorem only_delimiters_differ_of_requoted :
    nestedQuotes? requoted.1 = nestedQuotes? requoted.2 ∧
      ∃ oldTokens newTokens, tokens requoted.1 = .ok oldTokens ∧
        tokens requoted.2 = .ok newTokens ∧ oldTokens ≠ newTokens ∧
        List.Forall₂ SameUpToDelimiters oldTokens newTokens := by
  have hquotes : onlyQuotes requoted.1 requoted.2 = true := by decide
  have hold : tokens requoted.1 =
      .ok (["f", "(", "'a'", ",", "\"b'c\"", ")"].map String.toList) := by
    decide +kernel
  have hnew : tokens requoted.2 =
      .ok (["f", "(", "\"a\"", ",", "\"b'c\"", ")"].map String.toList) := by
    decide +kernel
  have hnested : nestedQuotes? requoted.1 = nestedQuotes? requoted.2 := by decide +kernel
  exact ⟨hnested, _, _, hold, hnew, by decide,
    (only_delimiters_differ_iff hquotes hold hnew).2.2 hnested⟩

/-- A sum of two literals, and one literal that holds quotes where the sum had delimiters. -/
def swallowed : Text × Text :=
  ("'a' + \"b\"".toList, "\"a' + 'b\"".toList)

theorem delimiters_swallowed :
    onlyQuotes swallowed.1 swallowed.2 = true ∧
      ∃ oldTokens newTokens, tokens swallowed.1 = .ok oldTokens ∧
        tokens swallowed.2 = .ok newTokens ∧ oldTokens.length = 3 ∧ newTokens.length = 1 ∧
        ¬ List.Forall₂ SameUpToDelimiters oldTokens newTokens := by
  have hold : tokens swallowed.1 = .ok (["'a'", "+", "\"b\""].map String.toList) := by
    decide +kernel
  have hnew : tokens swallowed.2 = .ok [swallowed.2] := by decide +kernel
  refine ⟨by decide, _, _, hold, hnew, rfl, rfl, fun hall => ?_⟩
  have hlength := hall.length_eq
  contradiction

end DiffSieve.Likeness
