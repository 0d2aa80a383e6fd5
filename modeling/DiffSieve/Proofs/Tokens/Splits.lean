import DiffSieve.Token
import DiffSieve.Proofs.Success
import Mathlib.Data.List.TakeWhile

/-!
# How a text splits into tokens

The offset that is carried along while a text is split matters only for the fault that is found, and
white space is left out or kept without any influence on where the next token begins.  `Splits` says
how a text splits into tokens without either of the two, and the running functions are told by it
(`tokensWithBlanks_eq_ok_iff`, `tokens_eq_ok_iff`, `significantTokens_eq_ok_iff`).
-/

namespace DiffSieve.Token

/-! ## How a token opens -/

/-- What the first two characters of a token announce. -/
inductive Opening where
  | blank
  | literal (kind : Enclosure) (spansLines : Bool)
  | lineComment
  | blockComment
  | name
  | number
  | mark
  deriving DecidableEq

/-- What a token announces that opens with `c` and has `next` after it. -/
def opening (c : Char) (next : Option Char) : Opening :=
  if Text.isBlank c then .blank
  else if c = backtick then .literal .template true
  else if isStringQuote c then .literal .string false
  else if c = '/' && next = some '/' then .lineComment
  else if c = '/' && next = some '*' then .blockComment
  else if isIdentifierStart c then .name
  else if c.isDigit then .number
  else .mark

/-- How many characters of `rest` belong to a token that opens with `c` and announces this. -/
def Opening.reach (c : Char) (rest : Text) : Opening → Except Enclosure Nat
  | blank => .ok (rest.takeWhile Text.isBlank).length
  | literal kind spansLines => orUnclosed kind (closingQuote c spansLines false rest)
  | lineComment => .ok (rest.takeWhile (!isLineEnd ·)).length
  | blockComment => (orUnclosed .blockComment (closingComment rest.tail)).map (· + 1)
  | name => .ok (rest.takeWhile isIdentifierPart).length
  | number => .ok (rest.takeWhile isNumberPart).length
  | mark => .ok 0

/-- How far a token reaches depends on what it announces. -/
lemma reach_eq (c : Char) (rest : Text) : reach c rest = (opening c rest.head?).reach c rest := by
  unfold reach opening
  repeat (split; rfl)
  rfl

section

variable {c : Char} {next : Option Char}

lemma isBlank_of_opening (h : opening c next = .blank) : Text.isBlank c = true := by
  unfold opening at h
  grind

lemma opening_of_isBlank (h : Text.isBlank c = true) : opening c next = .blank :=
  if_pos h

lemma quote_of_opening {kind : Enclosure} {spansLines : Bool}
    (h : opening c next = .literal kind spansLines) : isStringQuote c = true ∨ c = backtick := by
  unfold opening at h
  grind

lemma eq_of_opening_lineComment (h : opening c next = .lineComment) :
    c = '/' ∧ next = some '/' := by
  unfold opening at h
  grind

lemma eq_of_opening_blockComment (h : opening c next = .blockComment) :
    c = '/' ∧ next = some '*' := by
  unfold opening at h
  grind

end

/-! ## How far a token reaches -/

lemma closingQuote_le {quote : Char} {spansLines escaped : Bool} {text : Text} {n : Nat}
    (h : closingQuote quote spansLines escaped text = some n) : n ≤ text.length := by
  fun_induction closingQuote quote spansLines escaped text generalizing n with
  | case1 | case2 => contradiction
  | case3 _ _ _ ih =>
    obtain ⟨m, hm, rfl⟩ := Option.map_eq_some_iff.1 h
    exact Nat.succ_le_succ (ih hm)
  | case4 escaped rest _ _ ih =>
    obtain ⟨m, hm, rfl⟩ := Option.map_eq_some_iff.1 h
    exact Nat.succ_le_succ (ih hm)
  | case5 =>
    cases h
    exact Nat.succ_le_succ (Nat.zero_le _)
  | case6 escaped c rest _ _ _ _ ih =>
    obtain ⟨m, hm, rfl⟩ := Option.map_eq_some_iff.1 h
    exact Nat.succ_le_succ (ih hm)

lemma closingComment_le {text : Text} {n : Nat} (h : closingComment text = some n) :
    n ≤ text.length := by
  fun_induction closingComment text generalizing n with
  | case1 => contradiction
  | case2 c rest hp =>
    cases h
    exact (List.isPrefixOf_iff_prefix.1 hp).length_le
  | case3 c rest _ ih =>
    obtain ⟨m, hm, rfl⟩ := Option.map_eq_some_iff.1 h
    exact Nat.succ_le_succ (ih hm)

lemma orUnclosed_eq_ok_iff {kind : Enclosure} {found : Option Nat} {n : Nat} :
    orUnclosed kind found = .ok n ↔ found = some n := by
  cases found <;> simp [orUnclosed]

/-- A token stays within the text. -/
lemma reach_le {c : Char} {rest : Text} {n : Nat} (h : reach c rest = .ok n) :
    n ≤ rest.length := by
  have hwhile (p : Char → Bool) : (rest.takeWhile p).length ≤ rest.length :=
    (List.takeWhile_sublist p).length_le
  rw [reach_eq] at h
  cases hopens : opening c rest.head? <;> rw [hopens] at h
  case blank | lineComment | name | number => exact Except.ok.inj h ▸ hwhile _
  case literal => exact closingQuote_le (orUnclosed_eq_ok_iff.1 h)
  case blockComment =>
    obtain ⟨m, hm, rfl⟩ := Except.map_eq_ok_iff.1 h
    have hle := closingComment_le (orUnclosed_eq_ok_iff.1 hm)
    have hnext := (eq_of_opening_blockComment hopens).2
    cases rest with
    | nil => contradiction
    | cons d rest => exact Nat.succ_le_succ hle
  case mark => exact Except.ok.inj h ▸ Nat.zero_le _

/-- Induction along the tokens of a text: from what is left after the first token to the whole. -/
@[elab_as_elim]
lemma reach_induction {motive : Text → Prop} (text : Text) (nil : motive [])
    (cons : ∀ c rest, (∀ n, reach c rest = .ok n → motive (rest.drop n)) → motive (c :: rest)) :
    motive text := by
  induction hlength : text.length using Nat.strong_induction_on generalizing text with
  | _ length ih =>
    cases text with
    | nil => exact nil
    | cons c rest =>
      refine cons c rest fun n _ => ih _ ?_ _ rfl
      rw [← hlength, List.length_drop, List.length_cons]
      omega

/-! ## The tokens of a text -/

/-- Whether some tokens, white space among them, are what a text splits into. -/
inductive Splits : Text → List Token → Prop
  | nil : Splits [] []
  | cons {c : Char} {rest : Text} {n : Nat} {later : List Token} (hr : reach c rest = .ok n)
      (hl : Splits (rest.drop n) later) : Splits (c :: rest) ((c :: rest.take n) :: later)

lemma take_length_takeWhile {p : Char → Bool} (text : Text) :
    text.take (text.takeWhile p).length = text.takeWhile p :=
  (List.prefix_iff_eq_take.1 (List.takeWhile_prefix p)).symm

/-- A token that is white space is found at a blank character and nowhere else. -/
lemma isBlankRun_of_reach {c : Char} {rest : Text} {n : Nat} (h : reach c rest = .ok n) :
    Text.isBlankRun (c :: rest.take n) = Text.isBlank c := by
  by_cases hc : Text.isBlank c = true
  · rw [reach, if_pos hc] at h
    obtain rfl := Except.ok.inj h
    simp [Text.isBlankRun, hc, take_length_takeWhile, List.all_takeWhile]
  · simp [Text.isBlankRun, hc]

lemma splits_cons_iff {c : Char} {rest : Text} {ts : List Token} :
    Splits (c :: rest) ts ↔ ∃ n later,
      reach c rest = .ok n ∧ Splits (rest.drop n) later ∧ (c :: rest.take n) :: later = ts := by
  constructor
  · intro h
    cases h with
    | cons hr hl => exact ⟨_, _, hr, hl, rfl⟩
  · rintro ⟨n, later, hr, hl, rfl⟩
    exact .cons hr hl

lemma tokensFrom_cons_of_ok {keepBlank : Bool} {offset : Nat} {c : Char} {rest : Text} {n : Nat}
    (hr : reach c rest = .ok n) :
    tokensFrom keepBlank offset (c :: rest) =
      (tokensFrom keepBlank (offset + n + 1) (rest.drop n)).map fun later =>
        if !keepBlank && Text.isBlank c then later else (c :: rest.take n) :: later := by
  rw [tokensFrom, hr]
  rfl

/-- The tokens found are those that the text splits into, with or without its white space. -/
lemma tokensFrom_eq_ok_iff {keepBlank : Bool} {offset : Nat} {text : Text}
    {found : List Token} :
    tokensFrom keepBlank offset text = .ok found ↔
      ∃ ts, Splits text ts ∧
        ts.filter (fun token => keepBlank || !Text.isBlankRun token) = found := by
  constructor
  · intro h
    fun_induction tokensFrom keepBlank offset text generalizing found with
    | case1 =>
      cases h
      exact ⟨[], .nil, rfl⟩
    | case2 => contradiction
    | case3 offset c rest n hr ih =>
      obtain ⟨later, hlater, hfound⟩ := Except.bind_eq_ok_iff.1 h
      obtain ⟨ts, hts, rfl⟩ := ih hlater
      refine ⟨_, .cons hr hts, ?_⟩
      rw [List.filter_cons, isBlankRun_of_reach hr, ← Except.ok.inj hfound]
      cases keepBlank <;> cases Text.isBlank c <;> rfl
  · rintro ⟨ts, hts, rfl⟩
    induction hts generalizing offset with
    | nil => rw [tokensFrom]; rfl
    | @cons c rest n later hr hl ih =>
      rw [tokensFrom_cons_of_ok hr, ih, List.filter_cons, isBlankRun_of_reach hr]
      cases keepBlank <;> cases Text.isBlank c <;> rfl

variable {text : Text} {ts : List Token}

lemma tokensWithBlanks_eq_ok_iff : tokensWithBlanks text = .ok ts ↔ Splits text ts := by
  have hall (all : List Token) :
      all.filter (fun token => true || !Text.isBlankRun token) = all :=
    List.filter_eq_self.2 fun _ _ => rfl
  rw [tokensWithBlanks, tokensFrom_eq_ok_iff]
  simp only [hall, exists_eq_right]

lemma tokens_eq_ok_iff :
    tokens text = .ok ts ↔ ∃ all, Splits text all ∧ all.filter (!Text.isBlankRun ·) = ts := by
  rw [tokens, tokensFrom_eq_ok_iff]
  simp only [Bool.false_or]

lemma significantTokens_eq_ok_iff :
    significantTokens text = .ok ts ↔ ∃ all, Splits text all ∧ all.filter isSignificant = ts := by
  rw [significantTokens, Except.map_eq_ok_iff]
  simp only [tokensWithBlanks_eq_ok_iff]

end DiffSieve.Token
