import DiffSieve.Proofs.Tokens.Endings

/-!
# The lexical grammar

`IsLexeme` says what a token of each kind looks like, and which character must not come right after
it for the token to end there.  It names no scanner and no order in which the kinds are tried: the
kinds exclude each other by the first two characters, and `opening` finds the only one that is left
(`reach_of_isLexeme`, `isLexeme_of_reach`).  A text can be split up to the place where a literal or
a block comment opens that is `Unclosed`, and that is the only thing that can stop it.

So splitting a text accepts exactly the grammar, and refuses a text exactly where the grammar leaves
something unclosed (`tokens_are_the_lexemes`).  The way there is a law about a text that opens with
some lexemes: they are its first tokens, whatever the rest does (`tokensFrom_flatten_append`).
-/

namespace DiffSieve.Token

/-! ## Kinds of tokens -/

/-- Whether a text ends in an odd run of backslashes, so that a character after it is escaped. -/
def escapes (text : Text) : Bool :=
  (text.reverse.takeWhile (· = '\\')).length % 2 = 1

/-- Whether a literal that opens with `quote` is still open after `inner`: every `quote` there is
escaped, and there is no line end, unless the literal may span lines. -/
structure StaysOpen (quote : Char) (spansLines : Bool) (inner : Text) : Prop where
  escaped : ∀ before after, inner = before ++ quote :: after → escapes before = true
  oneLine : spansLines = false → ∀ c ∈ inner, isLineEnd c = false

/-- Whether a token is one of the grammar if the character `next` comes right after it. -/
inductive IsLexeme : Token → Option Char → Prop
  /-- A run of white space ends where the white space does. -/
  | blank {run : Text} {next : Option Char} (hne : run ≠ [])
      (hrun : ∀ c ∈ run, Text.isBlank c = true) (hnext : ∀ c ∈ next, Text.isBlank c = false) :
      IsLexeme run next
  /-- A template literal ends at the first backtick that is not escaped. -/
  | template {inner : Text} {next : Option Char} (hopen : StaysOpen backtick true inner)
      (hclose : escapes inner = false) : IsLexeme (backtick :: (inner ++ [backtick])) next
  /-- A string literal ends at the first quote of its kind that is not escaped. -/
  | string {quote : Char} {inner : Text} {next : Option Char} (hquote : isStringQuote quote = true)
      (hopen : StaysOpen quote false inner) (hclose : escapes inner = false) :
      IsLexeme (quote :: (inner ++ [quote])) next
  /-- A line comment ends where the line does. -/
  | lineComment {text : Text} {next : Option Char} (htext : ∀ c ∈ text, isLineEnd c = false)
      (hnext : ∀ c ∈ next, isLineEnd c = true) : IsLexeme ('/' :: '/' :: text) next
  /-- A block comment ends at the first mark of its end after the mark that opens it. -/
  | blockComment {inner : Text} {next : Option Char} (hfirst : ¬ ['*', '/'] <:+: inner ++ ['*']) :
      IsLexeme ('/' :: '*' :: (inner ++ ['*', '/'])) next
  /-- An identifier ends where the characters do that it may go on with. -/
  | name {c : Char} {run : Text} {next : Option Char} (hstart : isIdentifierStart c = true)
      (hrun : ∀ d ∈ run, isIdentifierPart d = true)
      (hnext : ∀ d ∈ next, isIdentifierPart d = false) : IsLexeme (c :: run) next
  /-- So does a number. -/
  | number {c : Char} {run : Text} {next : Option Char} (hstart : c.isDigit = true)
      (hrun : ∀ d ∈ run, isNumberPart d = true)
      (hnext : ∀ d ∈ next, isNumberPart d = false) : IsLexeme (c :: run) next
  /-- Any other character is a token of its own. -/
  | mark {c : Char} {next : Option Char} (hblank : Text.isBlank c = false) (hback : c ≠ backtick)
      (hquote : isStringQuote c = false) (hname : isIdentifierStart c = false)
      (hdigit : c.isDigit = false)
      (hcomment : c = '/' → next ≠ some '/' ∧ next ≠ some '*') : IsLexeme [c] next

/-- Whether each of some tokens is one of the grammar where it stands, with `rest` after the last of
them. -/
def AreLexemes : List Token → (rest : Text) → Prop
  | [], _ => True
  | token :: later, rest => IsLexeme token (later.flatten ++ rest).head? ∧ AreLexemes later rest

/-- Whether no `quote` closes a literal that holds the beginning of `rest`: where one stands, it is
escaped or comes too late. -/
def NeverCloses (quote : Char) (spansLines : Bool) (rest : Text) : Prop :=
  ∀ inner after, rest = inner ++ quote :: after →
    escapes inner = true ∨ spansLines = false ∧ ∃ c ∈ inner, isLineEnd c = true

/-- Whether a text opens with a token of the given kind that does not close. -/
inductive Unclosed : Enclosure → Text → Prop
  | template {rest : Text} (h : NeverCloses backtick true rest) :
      Unclosed .template (backtick :: rest)
  | string {quote : Char} {rest : Text} (hquote : isStringQuote quote = true)
      (h : NeverCloses quote false rest) : Unclosed .string (quote :: rest)
  | blockComment {rest : Text} (h : ¬ ['*', '/'] <:+: rest) :
      Unclosed .blockComment ('/' :: '*' :: rest)

/-! ## Escapes -/

lemma escapes_concat (text : Text) (c : Char) :
    escapes (text ++ [c]) = (decide (c = '\\') && !escapes text) := by
  rw [escapes, escapes, List.reverse_append, List.reverse_singleton, List.singleton_append]
  by_cases hc : c = '\\'
  · rw [List.takeWhile_cons_of_pos (by simpa using hc), List.length_cons, decide_eq_true hc,
      Bool.true_and, ← decide_not, decide_eq_decide]
    omega
  · rw [List.takeWhile_cons_of_neg (by simpa using hc), decide_eq_false hc, Bool.false_and]
    rfl

lemma StaysOpen.nil (quote : Char) (spansLines : Bool) : StaysOpen quote spansLines [] where
  escaped before after h := by simp at h
  oneLine _ c hc := by simp at hc

lemma StaysOpen.concat {quote : Char} {spansLines : Bool} {inner : Text}
    (h : StaysOpen quote spansLines inner) {c : Char}
    (hline : spansLines = false → isLineEnd c = false)
    (hquote : c = quote → escapes inner = true) : StaysOpen quote spansLines (inner ++ [c]) where
  escaped before after heq := by
    rcases List.eq_nil_or_concat after with rfl | ⟨after, last, rfl⟩
    · obtain ⟨rfl, hc⟩ := List.append_inj' heq rfl
      exact hquote (List.singleton_inj.1 hc)
    · rw [List.concat_eq_append, ← List.cons_append, ← List.append_assoc] at heq
      exact h.escaped before after (List.append_inj' heq rfl).1
  oneLine hspans d hd := by
    rcases List.mem_append.1 hd with hd | hd
    · exact h.oneLine hspans d hd
    · exact List.mem_singleton.1 hd ▸ hline hspans

/-- The next character of a literal that stays open neither ends its line nor closes it. -/
lemma StaysOpen.next {quote : Char} {spansLines : Bool} {before inner : Text} {c : Char}
    (h : StaysOpen quote spansLines (before ++ c :: inner)) :
    (!spansLines && isLineEnd c) = false ∧ (c = quote && !escapes before) = false := by
  constructor
  · cases hspans : spansLines with
    | true => rfl
    | false => exact h.oneLine hspans c (by simp)
  · by_cases hc : c = quote
    · rw [h.escaped before inner (by rw [hc])]
      exact Bool.and_false _
    · rw [decide_eq_false hc, Bool.false_and]

/-! ## Literals -/

section

variable {quote : Char} (hquote : isStringQuote quote = true ∨ quote = backtick) {spansLines : Bool}
include hquote

lemma ne_backslash_of_quote : quote ≠ '\\' := by
  rintro rfl
  contradiction

lemma isLineEnd_of_quote : isLineEnd quote = false := by
  by_contra hend
  simp only [isLineEnd, Bool.not_eq_false, Bool.or_eq_true, decide_eq_true_eq] at hend
  rcases hend with rfl | rfl <;> contradiction

/-- What is left of a literal stops at a line end, closes at the next character, or goes on with
that character read. -/
lemma closingQuote_escapes_cons (before : Text) (c : Char) (rest : Text) :
    closingQuote quote spansLines (escapes before) (c :: rest) =
      if !spansLines && isLineEnd c then none
      else if c = quote && !escapes before then some 1
      else (closingQuote quote spansLines (escapes (before ++ [c])) rest).map (· + 1) := by
  have hne := ne_backslash_of_quote hquote
  rw [closingQuote, escapes_concat]
  cases escapes before <;> grind

lemma closingQuote_append (before : Text) {inner : Text}
    (h : StaysOpen quote spansLines (before ++ inner)) (hclose : escapes (before ++ inner) = false)
    (after : Text) :
    closingQuote quote spansLines (escapes before) (inner ++ quote :: after) =
      some (inner.length + 1) := by
  induction inner generalizing before with
  | nil =>
    rw [List.append_nil] at hclose
    rw [List.nil_append, closingQuote_escapes_cons hquote, isLineEnd_of_quote hquote, hclose]
    simp
  | cons c inner ih =>
    obtain ⟨hnext, hhere⟩ := h.next
    rw [List.append_cons] at h hclose
    rw [List.cons_append, closingQuote_escapes_cons hquote, hnext, hhere, ih _ h hclose]
    rfl

/-- Where a closing quote is found, the literal is open up to there. -/
lemma exists_open_of_closingQuote (before : Text) {text : Text} {n : Nat}
    (hopen : StaysOpen quote spansLines before)
    (h : closingQuote quote spansLines (escapes before) text = some n) :
    ∃ inner after, text = inner ++ quote :: after ∧ n = inner.length + 1 ∧
      StaysOpen quote spansLines (before ++ inner) ∧ escapes (before ++ inner) = false := by
  induction text generalizing before n with
  | nil => contradiction
  | cons c rest ih =>
    rw [closingQuote_escapes_cons hquote] at h
    split at h
    · contradiction
    · next hline =>
      split at h
      · next hhere =>
        obtain ⟨rfl, hescapes⟩ : c = quote ∧ escapes before = false := by simpa using hhere
        obtain rfl := Option.some.inj h
        exact ⟨[], rest, rfl, rfl, by simpa using hopen, by simpa using hescapes⟩
      · next hhere =>
        obtain ⟨m, hm, rfl⟩ := Option.map_eq_some_iff.1 h
        have hnext : StaysOpen quote spansLines (before ++ [c]) :=
          hopen.concat (by simpa using hline) (by simpa using hhere)
        obtain ⟨inner, after, rfl, rfl, hlater, hclose⟩ := ih _ hnext hm
        rw [← List.append_cons] at hlater hclose
        exact ⟨c :: inner, after, rfl, rfl, hlater, hclose⟩

/-- Where no closing quote is found, no `quote` closes the literal. -/
lemma of_closingQuote_eq_none (before : Text) {inner after : Text}
    (h : closingQuote quote spansLines (escapes before) (inner ++ quote :: after) = none) :
    escapes (before ++ inner) = true ∨ spansLines = false ∧ ∃ c ∈ inner, isLineEnd c = true := by
  induction inner generalizing before with
  | nil =>
    rw [List.nil_append, closingQuote_escapes_cons hquote, isLineEnd_of_quote hquote] at h
    left
    by_contra hescapes
    simp_all
  | cons c inner ih =>
    rw [List.cons_append, closingQuote_escapes_cons hquote] at h
    split at h
    · next hline =>
      obtain ⟨hspans, hc⟩ : spansLines = false ∧ isLineEnd c = true := by simpa using hline
      exact .inr ⟨hspans, c, List.mem_cons_self, hc⟩
    · split at h
      · contradiction
      · rcases ih _ (Option.map_eq_none_iff.1 h) with hescapes | ⟨hspans, d, hd, hend⟩
        · exact .inl (by rwa [← List.append_cons] at hescapes)
        · exact .inr ⟨hspans, d, List.mem_cons_of_mem _ hd, hend⟩

lemma closingQuote_eq_none_iff {rest : Text} :
    closingQuote quote spansLines false rest = none ↔ NeverCloses quote spansLines rest := by
  constructor
  · rintro h inner after rfl
    exact of_closingQuote_eq_none hquote [] h
  · intro h
    by_contra hne
    obtain ⟨n, hn⟩ := Option.ne_none_iff_exists'.1 hne
    obtain ⟨inner, after, hrest, -, hopen, hclose⟩ :=
      exists_open_of_closingQuote hquote [] (.nil quote spansLines) hn
    rcases h inner after hrest with hescapes | ⟨hspans, c, hc, hend⟩
    · rw [List.nil_append, hescapes] at hclose
      contradiction
    · rw [hopen.oneLine hspans c hc] at hend
      contradiction

end

/-! ## Block comments -/

lemma isPrefixOf_append_star (c : Char) (inner after : Text) :
    ['*', '/'].isPrefixOf (c :: (inner ++ '*' :: after)) =
      ['*', '/'].isPrefixOf (c :: (inner ++ ['*'])) := by
  cases inner <;> simp [List.isPrefixOf]

lemma closingComment_append {inner : Text} (h : ¬ ['*', '/'] <:+: inner ++ ['*'])
    (after : Text) :
    closingComment (inner ++ '*' :: '/' :: after) = some (inner.length + 2) := by
  induction inner with
  | nil => simp [closingComment, List.isPrefixOf]
  | cons c inner ih =>
    rw [List.cons_append, List.infix_cons_iff, not_or, ← List.isPrefixOf_iff_prefix] at h
    rw [List.cons_append, closingComment, isPrefixOf_append_star, if_neg h.1, ih h.2]
    rfl

/-- Where the end of a comment is found, no end stands before it. -/
lemma exists_of_closingComment {text : Text} {n : Nat} (h : closingComment text = some n) :
    ∃ inner after, text = inner ++ '*' :: '/' :: after ∧ n = inner.length + 2 ∧
      ¬ ['*', '/'] <:+: inner ++ ['*'] := by
  induction text generalizing n with
  | nil => contradiction
  | cons c rest ih =>
    rw [closingComment] at h
    split at h
    · next hhere =>
      obtain ⟨after, hafter⟩ := List.isPrefixOf_iff_prefix.1 hhere
      exact ⟨[], after, hafter.symm, (Option.some.inj h).symm, by decide⟩
    · next hhere =>
      obtain ⟨m, hm, rfl⟩ := Option.map_eq_some_iff.1 h
      obtain ⟨inner, after, rfl, rfl, hfirst⟩ := ih hm
      refine ⟨c :: inner, after, rfl, rfl, ?_⟩
      rw [isPrefixOf_append_star, List.isPrefixOf_iff_prefix] at hhere
      rw [List.cons_append, List.infix_cons_iff, not_or]
      exact ⟨hhere, hfirst⟩

lemma closingComment_eq_none_iff {text : Text} :
    closingComment text = none ↔ ¬ ['*', '/'] <:+: text := by
  induction text with
  | nil => simp [closingComment]
  | cons c rest ih =>
    rw [closingComment, List.infix_cons_iff, not_or, ← ih, ← List.isPrefixOf_iff_prefix]
    split
    · next hhere =>
      exact iff_of_false (Option.some_ne_none 2) fun h => h.1 hhere
    · next hhere =>
      rw [Option.map_eq_none_iff]
      exact (and_iff_right hhere).symm

/-! ## Runs -/

section

variable {p : Char → Bool}

/-- A run that a class of characters makes up ends where the class does. -/
lemma length_takeWhile_append {run after : Text} (hrun : ∀ c ∈ run, p c = true)
    (hnext : ∀ c ∈ after.head?, p c = false) :
    ((run ++ after).takeWhile p).length = run.length := by
  rw [List.takeWhile_append_of_pos hrun, List.length_append]
  cases after with
  | nil => simp
  | cons c after =>
    rw [List.takeWhile_cons_of_neg (by simpa using hnext c rfl), List.length_nil, Nat.add_zero]

lemma of_mem_take_takeWhile {text : Text} :
    ∀ c ∈ text.take (text.takeWhile p).length, p c = true := by
  intro c hc
  rw [take_length_takeWhile] at hc
  exact List.mem_takeWhile_imp hc

lemma of_mem_head?_drop_takeWhile {text : Text} :
    ∀ c ∈ (text.drop (text.takeWhile p).length).head?, p c = false := by
  intro c hc
  rw [drop_length_takeWhile] at hc
  have hhead := List.head?_dropWhile_not p text
  rw [hc] at hhead
  exact hhead

end

/-! ## The kinds exclude each other -/

section

variable {c : Char} {next : Option Char}

lemma isBlank_of_isInert_eq_false (h : isInert c = false) : Text.isBlank c = false := by
  by_contra hblank
  rw [isInert_of_isBlank (Bool.not_eq_false _ ▸ hblank)] at h
  contradiction

lemma isBlank_of_isStringQuote (h : isStringQuote c = true) : Text.isBlank c = false :=
  isBlank_of_isInert_eq_false (by simp [isInert, h])

lemma isBlank_of_isIdentifierPart (h : isIdentifierPart c = true) : Text.isBlank c = false :=
  isBlank_of_isInert_eq_false (by simp [isInert, h])

lemma isBlank_of_isNumberPart (h : isNumberPart c = true) : Text.isBlank c = false :=
  isBlank_of_isInert_eq_false (by simp [isInert, h])

lemma opening_eq_string (h : isStringQuote c = true) :
    opening c next = .literal .string false := by
  have hback : c ≠ backtick := by
    rintro rfl
    contradiction
  simp [opening, isBlank_of_isStringQuote h, hback, h]

lemma opening_of_alphanumeric (h : isIdentifierPart c = true) :
    opening c next =
      if isIdentifierStart c then .name else if c.isDigit then .number else .mark := by
  have hback : c ≠ backtick := by
    rintro rfl
    contradiction
  have hquote : isStringQuote c = false := by
    by_contra hquote
    simp only [isStringQuote, Bool.not_eq_false, Bool.or_eq_true, decide_eq_true_eq] at hquote
    rcases hquote with rfl | rfl <;> contradiction
  have hslash : c ≠ '/' := by
    rintro rfl
    contradiction
  simp [opening, isBlank_of_isIdentifierPart h, hback, hquote, hslash]

lemma opening_eq_name (h : isIdentifierStart c = true) : opening c next = .name := by
  rw [opening_of_alphanumeric (by simp [isIdentifierPart, h]), if_pos h]

lemma isIdentifierStart_of_isDigit (h : c.isDigit = true) : isIdentifierStart c = false := by
  by_contra hstart
  simp only [isIdentifierStart, Bool.not_eq_false, Bool.or_eq_true, decide_eq_true_eq] at hstart
  rcases hstart with (hletter | rfl) | rfl
  · have hdigit := toNat_of_isDigit h
    have hcode := toNat_of_isAlpha hletter
    omega
  · contradiction
  · contradiction

lemma opening_eq_number (h : c.isDigit = true) : opening c next = .number := by
  rw [opening_of_alphanumeric (by simp [isIdentifierPart, h]), isIdentifierStart_of_isDigit h,
    if_neg Bool.false_ne_true, if_pos h]

lemma opening_eq_mark_iff :
    opening c next = .mark ↔ Text.isBlank c = false ∧ c ≠ backtick ∧ isStringQuote c = false ∧
      isIdentifierStart c = false ∧ c.isDigit = false ∧
        (c = '/' → next ≠ some '/' ∧ next ≠ some '*') := by
  unfold opening
  grind

end

lemma isIdentifierStart_of_opening {c : Char} {next : Option Char} (h : opening c next = .name) :
    isIdentifierStart c = true := by
  unfold opening at h
  grind

lemma isDigit_of_opening {c : Char} {next : Option Char} (h : opening c next = .number) :
    c.isDigit = true := by
  unfold opening at h
  grind

lemma of_opening_literal {c : Char} {next : Option Char} {kind : Enclosure} {spansLines : Bool}
    (h : opening c next = .literal kind spansLines) :
    kind = .template ∧ spansLines = true ∧ c = backtick ∨
      kind = .string ∧ spansLines = false ∧ isStringQuote c = true := by
  unfold opening at h
  grind

/-! ## The reach of a token and the grammar -/

lemma reach_literal {quote : Char} {kind : Enclosure} {spansLines : Bool} {inner after : Text}
    (hopens : opening quote (inner ++ [quote] ++ after).head? = .literal kind spansLines)
    (hopen : StaysOpen quote spansLines inner) (hclose : escapes inner = false) :
    reach quote (inner ++ [quote] ++ after) = .ok (inner ++ [quote]).length := by
  rw [reach_eq, hopens, Opening.reach, orUnclosed_eq_ok_iff, List.append_assoc, List.length_append]
  exact closingQuote_append (quote_of_opening hopens) [] hopen hclose after

/-- A token of the grammar is found where it stands. -/
lemma reach_of_isLexeme {c : Char} {run after : Text} (h : IsLexeme (c :: run) after.head?) :
    reach c (run ++ after) = .ok run.length := by
  generalize hnext : after.head? = next at h
  cases h with
  | blank _ hrun hend =>
    subst hnext
    obtain ⟨hc, hrun⟩ := List.forall_mem_cons.1 hrun
    rw [reach_eq, opening_of_isBlank hc, Opening.reach, length_takeWhile_append hrun hend]
  | template hopen hclose => exact reach_literal rfl hopen hclose
  | string hquote hopen hclose => exact reach_literal (opening_eq_string hquote) hopen hclose
  | @lineComment text _ htext hend =>
    subst hnext
    have hrun : ∀ d ∈ '/' :: text, (!isLineEnd d) = true :=
      List.forall_mem_cons.2 ⟨rfl, fun d hd => by rw [htext d hd, Bool.not_false]⟩
    have hend : ∀ d ∈ after.head?, (!isLineEnd d) = false := fun d hd => by
      rw [hend d hd, Bool.not_true]
    have hreach := length_takeWhile_append hrun hend
    exact congrArg Except.ok hreach
  | @blockComment inner _ hfirst =>
    have hclosing : orUnclosed .blockComment (closingComment (inner ++ '*' :: '/' :: after)) =
        .ok (inner.length + 2) := orUnclosed_eq_ok_iff.2 (closingComment_append hfirst after)
    have hreach : reach '/' ('*' :: (inner ++ '*' :: '/' :: after)) =
        .ok (inner.length + 2 + 1) := by
      rw [reach_eq]
      exact Except.map_eq_ok_iff.2 ⟨_, hclosing, rfl⟩
    simpa using hreach
  | name hstart hrun hend =>
    subst hnext
    rw [reach_eq, opening_eq_name hstart, Opening.reach, length_takeWhile_append hrun hend]
  | number hstart hrun hend =>
    subst hnext
    rw [reach_eq, opening_eq_number hstart, Opening.reach, length_takeWhile_append hrun hend]
  | mark hblank hback hquote hname hdigit hcomment =>
    subst hnext
    have hopens := opening_eq_mark_iff.2 ⟨hblank, hback, hquote, hname, hdigit, hcomment⟩
    rw [reach_eq, List.nil_append, hopens, Opening.reach, List.length_nil]

/-- What is found is a token of the grammar. -/
lemma isLexeme_of_reach {c : Char} {rest : Text} {n : Nat} (h : reach c rest = .ok n) :
    IsLexeme (c :: rest.take n) (rest.drop n).head? := by
  rw [reach_eq] at h
  cases hopens : opening c rest.head? <;> rw [hopens, Opening.reach] at h
  case blank =>
    obtain rfl := Except.ok.inj h
    exact .blank (List.cons_ne_nil _ _)
      (List.forall_mem_cons.2 ⟨isBlank_of_opening hopens, of_mem_take_takeWhile⟩)
      of_mem_head?_drop_takeWhile
  case literal kind spansLines =>
    have hquote := quote_of_opening hopens
    obtain ⟨inner, after, rfl, rfl, hopen, hclose⟩ :=
      exists_open_of_closingQuote hquote [] (.nil _ _) (orUnclosed_eq_ok_iff.1 h)
    rw [List.append_cons, List.take_left' (by simp), List.drop_left' (by simp)]
    rcases of_opening_literal hopens with ⟨-, rfl, rfl⟩ | ⟨-, rfl, hstring⟩
    · exact .template hopen hclose
    · exact .string hstring hopen hclose
  case lineComment =>
    obtain rfl := Except.ok.inj h
    obtain ⟨rfl, hnext⟩ := eq_of_opening_lineComment hopens
    obtain ⟨text, rfl⟩ := List.head?_eq_some_iff.1 hnext
    rw [List.takeWhile_cons_of_pos rfl, List.length_cons, List.take_succ_cons, List.drop_succ_cons]
    exact .lineComment (fun d hd => by simpa using of_mem_take_takeWhile d hd)
      fun d hd => by simpa using of_mem_head?_drop_takeWhile d hd
  case blockComment =>
    obtain ⟨rfl, hnext⟩ := eq_of_opening_blockComment hopens
    obtain ⟨later, rfl⟩ := List.head?_eq_some_iff.1 hnext
    obtain ⟨m, hm, rfl⟩ := Except.map_eq_ok_iff.1 h
    obtain ⟨inner, after, hlater, rfl, hfirst⟩ :=
      exists_of_closingComment (orUnclosed_eq_ok_iff.1 hm)
    have hsplit : inner ++ '*' :: '/' :: after = inner ++ ['*', '/'] ++ after := by simp
    rw [List.take_succ_cons, List.drop_succ_cons, show later = _ from hlater, hsplit,
      List.take_left' (by simp), List.drop_left' (by simp)]
    exact .blockComment hfirst
  case name =>
    obtain rfl := Except.ok.inj h
    exact .name (isIdentifierStart_of_opening hopens) of_mem_take_takeWhile
      of_mem_head?_drop_takeWhile
  case number =>
    obtain rfl := Except.ok.inj h
    exact .number (isDigit_of_opening hopens) of_mem_take_takeWhile of_mem_head?_drop_takeWhile
  case mark =>
    obtain rfl := Except.ok.inj h
    obtain ⟨hblank, hback, hquote, hname, hdigit, hcomment⟩ := opening_eq_mark_iff.1 hopens
    exact .mark hblank hback hquote hname hdigit hcomment

lemma orUnclosed_eq_error_iff {kind kind' : Enclosure} {found : Option Nat} :
    orUnclosed kind found = .error kind' ↔ found = none ∧ kind = kind' := by
  cases found <;> simp [orUnclosed]

/-- Nothing is found exactly where a token opens that does not close. -/
lemma reach_eq_error_iff {c : Char} {rest : Text} {kind : Enclosure} :
    reach c rest = .error kind ↔ Unclosed kind (c :: rest) := by
  rw [reach_eq]
  constructor
  · intro h
    cases hopens : opening c rest.head? <;> rw [hopens, Opening.reach] at h
    case blank | lineComment | name | number | mark => contradiction
    case literal =>
      obtain ⟨hnone, rfl⟩ := orUnclosed_eq_error_iff.1 h
      have hnever := (closingQuote_eq_none_iff (quote_of_opening hopens)).1 hnone
      rcases of_opening_literal hopens with ⟨rfl, rfl, rfl⟩ | ⟨rfl, rfl, hstring⟩
      · exact .template hnever
      · exact .string hstring hnever
    case blockComment =>
      obtain ⟨rfl, hnext⟩ := eq_of_opening_blockComment hopens
      obtain ⟨later, rfl⟩ := List.head?_eq_some_iff.1 hnext
      obtain ⟨hnone, rfl⟩ := orUnclosed_eq_error_iff.1 (Except.map_eq_error_iff.1 h)
      exact .blockComment (closingComment_eq_none_iff.1 hnone)
  · intro h
    cases h with
    | template hnever =>
      exact orUnclosed_eq_error_iff.2 ⟨(closingQuote_eq_none_iff (.inr rfl)).2 hnever, rfl⟩
    | string hstring hnever =>
      rw [opening_eq_string hstring]
      exact orUnclosed_eq_error_iff.2 ⟨(closingQuote_eq_none_iff (.inl hstring)).2 hnever, rfl⟩
    | blockComment hnone =>
      exact Except.map_eq_error_iff.2
        (orUnclosed_eq_error_iff.2 ⟨closingComment_eq_none_iff.2 hnone, rfl⟩)

/-! ## The lexemes of a text -/

lemma areLexemes_of_splits {text : Text} {ts : List Token} (h : Splits text ts) :
    ts.flatten = text ∧ AreLexemes ts [] := by
  induction h with
  | nil => exact ⟨rfl, trivial⟩
  | @cons c rest n later hr hl ih =>
    obtain ⟨hflatten, hlater⟩ := ih
    refine ⟨?_, ?_, hlater⟩
    · rw [List.flatten_cons, hflatten, List.cons_append, List.take_append_drop]
    · rw [List.append_nil, hflatten]
      exact isLexeme_of_reach hr

lemma Unclosed.ne_nil {kind : Enclosure} {rest : Text} (h : Unclosed kind rest) : rest ≠ [] := by
  cases h <;> exact List.cons_ne_nil _ _

lemma IsLexeme.ne_nil {token : Token} {next : Option Char} (h : IsLexeme token next) :
    token ≠ [] := by
  cases h with
  | blank hne => exact hne
  | _ => exact List.cons_ne_nil _ _

/-- The lexemes that a text opens with are its first tokens. -/
lemma tokensFrom_flatten_append {ts : List Token} {rest : Text} (h : AreLexemes ts rest)
    (keepBlank : Bool) (offset : Nat) :
    tokensFrom keepBlank offset (ts.flatten ++ rest) =
      (tokensFrom keepBlank (offset + ts.flatten.length) rest).map
        (ts.filter (fun token => keepBlank || !Text.isBlankRun token) ++ ·) := by
  induction ts generalizing offset with
  | nil =>
    rw [List.flatten_nil, List.nil_append, List.length_nil, Nat.add_zero]
    cases tokensFrom keepBlank offset rest <;> rfl
  | cons token later ih =>
    obtain ⟨hhere, hlater⟩ := h
    obtain ⟨c, run, rfl⟩ := List.exists_cons_of_ne_nil hhere.ne_nil
    have hr := reach_of_isLexeme hhere
    have hblank := isBlankRun_of_reach hr
    have hoffset : offset + run.length + 1 + later.flatten.length =
        offset + (c :: run ++ later.flatten).length := by
      rw [List.length_append, List.length_cons]
      omega
    rw [List.take_left] at hblank
    rw [List.flatten_cons, List.append_assoc, List.cons_append, tokensFrom_cons_of_ok hr,
      List.drop_left, List.take_left, ih hlater, hoffset, List.filter_cons, hblank]
    cases tokensFrom keepBlank (offset + (c :: run ++ later.flatten).length) rest with
    | error => rfl
    | ok => cases keepBlank <;> cases Text.isBlank c <;> rfl

/-- Where a text does not split any further, a token opens that does not close. -/
lemma exists_of_tokensFrom_eq_error {keepBlank : Bool} {offset : Nat} {text : Text}
    {fault : Unterminated} (h : tokensFrom keepBlank offset text = .error fault) :
    ∃ ts rest, text = ts.flatten ++ rest ∧ AreLexemes ts rest ∧ Unclosed fault.kind rest ∧
      fault.position = offset + ts.flatten.length := by
  fun_induction tokensFrom keepBlank offset text with
  | case1 => contradiction
  | case2 offset c rest kind hr =>
    obtain rfl := Except.error.inj h
    exact ⟨[], c :: rest, rfl, trivial, reach_eq_error_iff.1 hr, rfl⟩
  | case3 offset c rest n hr ih =>
    obtain ⟨ts, left, hrest, hts, hopen, hposition⟩ := ih (Except.map_eq_error_iff.1 h)
    have hhere := isLexeme_of_reach hr
    rw [hrest] at hhere
    refine ⟨(c :: rest.take n) :: ts, left, ?_, ⟨hhere, hts⟩, hopen, ?_⟩
    · rw [List.flatten_cons, List.append_assoc, ← hrest, List.cons_append, List.take_append_drop]
    · rw [hposition, List.flatten_cons, List.length_append, List.length_cons,
        List.length_take_of_le (reach_le hr)]
      omega

lemma tokensFrom_eq_error_iff {keepBlank : Bool} {offset : Nat} {text : Text}
    {fault : Unterminated} :
    tokensFrom keepBlank offset text = .error fault ↔
      ∃ ts rest, text = ts.flatten ++ rest ∧ AreLexemes ts rest ∧ Unclosed fault.kind rest ∧
        fault.position = offset + ts.flatten.length := by
  refine ⟨exists_of_tokensFrom_eq_error, ?_⟩
  rintro ⟨ts, rest, rfl, hts, hopen, hposition⟩
  obtain ⟨c, rest, rfl⟩ := List.exists_cons_of_ne_nil hopen.ne_nil
  rw [tokensFrom_flatten_append hts, Except.map_eq_error_iff, tokensFrom,
    reach_eq_error_iff.2 hopen, ← hposition]

/-- A text splits into its lexemes. -/
lemma splits_iff {text : Text} {ts : List Token} :
    Splits text ts ↔ ts.flatten = text ∧ AreLexemes ts [] := by
  refine ⟨areLexemes_of_splits, ?_⟩
  rintro ⟨rfl, hts⟩
  have hall : ts.filter (fun token => true || !Text.isBlankRun token) = ts :=
    List.filter_eq_self.2 fun _ _ => rfl
  have hsplit := tokensFrom_flatten_append hts true 0
  rw [List.append_nil, hall, tokensFrom] at hsplit
  rw [← tokensWithBlanks_eq_ok_iff, tokensWithBlanks, hsplit]
  exact congrArg Except.ok (List.append_nil ts)

lemma AreLexemes.exists_isLexeme {ts : List Token} {rest : Text} (h : AreLexemes ts rest) :
    ∀ token ∈ ts, ∃ next, IsLexeme token next := by
  induction ts with
  | nil => exact fun _ hmem => absurd hmem List.not_mem_nil
  | cons token later ih => exact List.forall_mem_cons.2 ⟨⟨_, h.1⟩, ih h.2⟩

lemma AreLexemes.ne_nil {ts : List Token} {rest : Text} (h : AreLexemes ts rest) :
    ∀ token ∈ ts, token ≠ [] := by
  intro token hmem
  obtain ⟨next, hnext⟩ := h.exists_isLexeme token hmem
  exact hnext.ne_nil

/-- Splitting a text into tokens accepts exactly its lexemes, one after the other, and stops exactly
where a literal or a block comment opens after some lexemes and does not close. -/
theorem tokens_are_the_lexemes (text : Text) :
    (∀ ts, tokensWithBlanks text = .ok ts ↔
      (∀ token ∈ ts, token ≠ []) ∧ ts.flatten = text ∧ AreLexemes ts []) ∧
    ∀ kind position, tokensWithBlanks text = .error ⟨kind, position⟩ ↔
      ∃ ts, (∀ token ∈ ts, token ≠ []) ∧ ts.flatten = text.take position ∧
        AreLexemes ts (text.drop position) ∧ Unclosed kind (text.drop position) := by
  constructor
  · intro ts
    rw [tokensWithBlanks_eq_ok_iff, splits_iff]
    exact ⟨fun h => ⟨h.2.ne_nil, h⟩, And.right⟩
  · intro kind position
    rw [tokensWithBlanks, tokensFrom_eq_error_iff]
    constructor
    · rintro ⟨ts, rest, rfl, hts, hopen, hposition⟩
      obtain rfl : position = ts.flatten.length := hposition.trans (Nat.zero_add _)
      rw [List.take_left, List.drop_left]
      exact ⟨ts, hts.ne_nil, rfl, hts, hopen⟩
    · rintro ⟨ts, -, hflatten, hts, hopen⟩
      have hlt : position < text.length := by
        have hne := hopen.ne_nil
        rwa [Ne, List.drop_eq_nil_iff, Nat.not_le] at hne
      refine ⟨ts, text.drop position, ?_, hts, hopen, ?_⟩
      · rw [hflatten, List.take_append_drop]
      · rw [hflatten, List.length_take_of_le (Nat.le_of_lt hlt), Nat.zero_add]

/-- The mark that opens a block comment does not lend its star to the mark that ends one. -/
example : tokensWithBlanks "a /*/".toList = .error ⟨.blockComment, 2⟩ := by
  decide +kernel

end DiffSieve.Token
