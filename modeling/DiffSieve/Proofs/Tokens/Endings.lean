import DiffSieve.Noise.Likeness
import DiffSieve.Proofs.LineEnds
import DiffSieve.Proofs.Tokens.Splits
import Mathlib.Data.List.Induction

/-!
# A final mark and the tokens before it

A comma or a semicolon at the end of a text belongs to no token that begins before it, unless that
token is a comment, and it opens nothing and closes nothing.  The same holds of white space, which
may besides lengthen a run of it.  So a character that is `isInert` leaves the tokens before it, and
whether the text splits into tokens at all, as they are (`reach_concat`), and white space at the two
ends of a text means nothing (`meaning?_trim`).  What the detectors of final commas and semicolons
accept differs in that one token at most.
-/

namespace DiffSieve.Token

/-! ## Characters that neither open nor close nor continue anything but comments -/

/-- Whether a character is no part of a name or a number, and no mark that opens or closes a literal
or a comment. -/
def isInert (c : Char) : Bool :=
  !(isIdentifierPart c || isNumberPart c || isStringQuote c || c = backtick || c = '/' || c = '*')

lemma toNat_of_isAlpha {c : Char} (h : c.isAlpha = true) : 0x41 ≤ c.toNat ∧ c.toNat ≤ 0x7A := by
  have hcode : c.toNat = c.val.toNat := rfl
  rcases Bool.or_eq_true_iff.1 h with hupper | hlower
  · obtain ⟨hfirst, hlast⟩ : 'A'.val ≤ c.val ∧ c.val ≤ 'Z'.val := of_decide_eq_true hupper
    simp only [UInt32.le_iff_toNat_le, Char.reduceVal, UInt32.reduceToNat] at hfirst hlast
    omega
  · obtain ⟨hfirst, hlast⟩ := Bool.and_eq_true_iff.1 hlower
    have hfirst : 'a'.val ≤ c.val := of_decide_eq_true hfirst
    have hlast : c.val ≤ 'z'.val := of_decide_eq_true hlast
    simp only [UInt32.le_iff_toNat_le, Char.reduceVal, UInt32.reduceToNat] at hfirst hlast
    omega

lemma toNat_of_isDigit {c : Char} (h : c.isDigit = true) : 0x30 ≤ c.toNat ∧ c.toNat ≤ 0x39 := by
  have hcode : c.toNat = c.val.toNat := rfl
  obtain ⟨hfirst, hlast⟩ := Bool.and_eq_true_iff.1 h
  have hfirst : '0'.val ≤ c.val := of_decide_eq_true hfirst
  have hlast : c.val ≤ '9'.val := of_decide_eq_true hlast
  simp only [UInt32.le_iff_toNat_le, Char.reduceVal, UInt32.reduceToNat] at hfirst hlast
  omega

lemma toNat_of_isInert_eq_false {c : Char} (h : isInert c = false) :
    0x20 < c.toNat ∧ c.toNat < 0x85 := by
  simp only [isInert, isIdentifierPart, isIdentifierStart, isNumberPart, isStringQuote,
    Bool.not_eq_false', Bool.or_eq_true, decide_eq_true_eq] at h
  rcases h with (((((((hletter | rfl) | rfl) | hdigit) | (hdigit | rfl) | rfl) | rfl | rfl) | rfl)
    | rfl) | rfl
  · have hcode := toNat_of_isAlpha hletter
    omega
  · decide
  · decide
  · have hcode := toNat_of_isDigit hdigit
    omega
  · have hcode := toNat_of_isDigit hdigit
    omega
  all_goals decide

lemma isInert_of_isBlank {c : Char} (h : Text.isBlank c = true) : isInert c = true := by
  have hranges : ∀ range ∈ Text.blankRanges, range.2 ≤ 0x20 ∨ 0x85 ≤ range.1 := by decide
  obtain ⟨range, hmem, hfirst, hlast⟩ := Text.Ranges.covers_iff.1 h
  have hrange := hranges range hmem
  by_contra hinert
  have hcode := toNat_of_isInert_eq_false (Bool.not_eq_true _ ▸ hinert)
  omega

/-! ## The reach of a token in a longer text -/

lemma isSignificant_of_isBlank {token : Token} (hne : token ≠ [])
    (h : ∀ c ∈ token, Text.isBlank c = true) : isSignificant token = false := by
  have hrun : Text.isBlankRun token = true := by
    simp [Text.isBlankRun, hne]
    exact h
  rw [isSignificant, hrun]
  rfl

lemma isSignificant_of_lineComment (text : Text) :
    isSignificant ('/' :: '/' :: text) = false := by
  have hcomment : isComment ('/' :: '/' :: text) = true := by
    rw [isComment, Text.opensWithAny, List.any_cons]
    rfl
  rw [isSignificant, hcomment, Bool.not_true, Bool.and_false]

section

variable {x : Char} (hx : isInert x = true)
include hx

lemma closingQuote_concat {quote : Char} (hq : isStringQuote quote = true ∨ quote = backtick)
    (spansLines escaped : Bool) (text : Text) :
    closingQuote quote spansLines escaped (text ++ [x]) =
      closingQuote quote spansLines escaped text := by
  have hne : x ≠ quote := by
    rintro rfl
    rcases hq with hq | hq <;> simp [isInert, hq] at hx
  induction text generalizing escaped with
  | nil => simp [closingQuote, hne]
  | cons c rest ih => rw [List.cons_append, closingQuote, closingQuote, ih, ih]

lemma closingComment_concat (text : Text) :
    closingComment (text ++ [x]) = closingComment text := by
  have hne : x ≠ '/' := by
    rintro rfl
    contradiction
  induction text with
  | nil => simp [closingComment]
  | cons c rest ih =>
    have hlead : ['*', '/'].isPrefixOf (c :: (rest ++ [x])) =
        ['*', '/'].isPrefixOf (c :: rest) := by
      cases rest with
      | nil => simp [List.isPrefixOf, hne.symm]
      | cons d rest => simp [List.isPrefixOf]
    rw [List.cons_append, closingComment, closingComment, hlead, ih]

omit hx in
lemma takeWhile_concat (p : Char → Bool) (text : Text) (x : Char) :
    (text ++ [x]).takeWhile p = text.takeWhile p ∨
      (∀ c ∈ text, p c = true) ∧ p x = true := by
  induction text with
  | nil => cases hp : p x <;> simp [hp]
  | cons c rest ih => cases hp : p c <;> simp [hp, ih]

/-- A token announces the same with an inert character at the end of the text. -/
lemma opening_concat (c : Char) (rest : Text) :
    opening c (rest ++ [x]).head? = opening c rest.head? := by
  cases rest with
  | cons d rest => rfl
  | nil =>
    have hslash : x ≠ '/' := by
      rintro rfl
      contradiction
    have hstar : x ≠ '*' := by
      rintro rfl
      contradiction
    simp [opening, hslash, hstar]

/-- A token reaches as far with an inert character at the end of the text as without it, or it is
white space or a comment and reaches over the whole text. -/
lemma reach_concat (c : Char) (rest : Text) :
    reach c (rest ++ [x]) = reach c rest ∨
      reach c rest = .ok rest.length ∧ reach c (rest ++ [x]) = .ok (rest.length + 1) ∧
        isSignificant (c :: rest) = false ∧ isSignificant (c :: (rest ++ [x])) = false := by
  have hwhile {p : Char → Bool} (hall : ∀ c ∈ rest, p c = true) (hlast : p x = true) :
      (rest.takeWhile p).length = rest.length ∧
        ((rest ++ [x]).takeWhile p).length = rest.length + 1 := by
    have hwhole : ∀ c ∈ rest ++ [x], p c = true := by grind
    rw [List.takeWhile_eq_self_iff.2 hall, List.takeWhile_eq_self_iff.2 hwhole]
    simp
  rw [reach_eq, reach_eq, opening_concat hx]
  cases hopens : opening c rest.head? with
  | blank =>
    have hc := isBlank_of_opening hopens
    rcases takeWhile_concat Text.isBlank rest x with heq | ⟨hall, hlast⟩
    · exact .inl (congrArg (fun run : Text => Except.ok run.length) heq)
    · obtain ⟨hshort, hlong⟩ := hwhile hall hlast
      refine .inr ⟨congrArg Except.ok hshort, congrArg Except.ok hlong, ?_, ?_⟩
      · exact isSignificant_of_isBlank (by simp) (by grind)
      · exact isSignificant_of_isBlank (by simp) (by grind)
  | literal kind spansLines =>
    left
    rw [Opening.reach, Opening.reach, closingQuote_concat hx (quote_of_opening hopens)]
  | lineComment =>
    obtain ⟨rfl, hnext⟩ := eq_of_opening_lineComment hopens
    obtain ⟨later, rfl⟩ := List.head?_eq_some_iff.1 hnext
    rcases takeWhile_concat (!isLineEnd ·) ('/' :: later) x with heq | ⟨hall, hlast⟩
    · exact .inl (congrArg (fun run : Text => Except.ok run.length) heq)
    · obtain ⟨hshort, hlong⟩ := hwhile hall hlast
      exact .inr ⟨congrArg Except.ok hshort, congrArg Except.ok hlong,
        isSignificant_of_lineComment _, isSignificant_of_lineComment _⟩
  | blockComment =>
    left
    obtain ⟨-, hnext⟩ := eq_of_opening_blockComment hopens
    obtain ⟨later, rfl⟩ := List.head?_eq_some_iff.1 hnext
    rw [Opening.reach, Opening.reach, List.cons_append, List.tail_cons, List.tail_cons,
      closingComment_concat hx]
  | name =>
    rcases takeWhile_concat isIdentifierPart rest x with heq | ⟨-, hlast⟩
    · exact .inl (congrArg (fun run : Text => Except.ok run.length) heq)
    · simp [isInert, hlast] at hx
  | number =>
    rcases takeWhile_concat isNumberPart rest x with heq | ⟨-, hlast⟩
    · exact .inl (congrArg (fun run : Text => Except.ok run.length) heq)
    · simp [isInert, hlast] at hx
  | mark => exact .inl rfl

end

/-! ## What a text means -/

/-- The significant tokens of a text, if it splits into tokens. -/
def meaning? (text : Text) : Option (List Token) :=
  (significantTokens text).toOption

lemma meaning?_eq_some_iff {text : Text} {ts : List Token} :
    meaning? text = some ts ↔ significantTokens text = .ok ts := by
  unfold meaning?
  cases significantTokens text <;> simp [Except.toOption]

lemma meaning?_nil : meaning? [] = some [] :=
  meaning?_eq_some_iff.2 (significantTokens_eq_ok_iff.2 ⟨[], .nil, rfl⟩)

/-- The significant tokens of a text are its first token, if that means anything, and those of the
rest. -/
lemma meaning?_cons (c : Char) (rest : Text) :
    meaning? (c :: rest) = (reach c rest).toOption.bind fun n =>
      (meaning? (rest.drop n)).map ([c :: rest.take n].filter isSignificant ++ ·) := by
  ext ts
  simp only [meaning?_eq_some_iff, significantTokens_eq_ok_iff, splits_cons_iff,
    Option.bind_eq_some_iff, Option.map_eq_some_iff]
  constructor
  · rintro ⟨all, ⟨n, later, hr, hl, rfl⟩, rfl⟩
    refine ⟨n, by rw [hr]; rfl, _, ⟨later, hl, rfl⟩, ?_⟩
    rw [← List.filter_append]
    rfl
  · rintro ⟨n, hr, _, ⟨later, hl, rfl⟩, rfl⟩
    have hr : reach c rest = .ok n := by
      cases hreach : reach c rest <;> simp_all [Except.toOption]
    refine ⟨_, ⟨n, later, hr, hl, rfl⟩, ?_⟩
    rw [← List.filter_append]
    rfl

lemma meaning?_cons_of_error {c : Char} {rest : Text} {kind : Enclosure}
    (hr : reach c rest = .error kind) : meaning? (c :: rest) = none := by
  rw [meaning?_cons, hr]
  rfl

lemma meaning?_cons_of_ok {c : Char} {rest : Text} {n : Nat} (hr : reach c rest = .ok n) :
    meaning? (c :: rest) =
      (meaning? (rest.drop n)).map ([c :: rest.take n].filter isSignificant ++ ·) := by
  rw [meaning?_cons, hr]
  rfl

lemma meaning?_of_reach_length {c : Char} {rest : Text} (hr : reach c rest = .ok rest.length)
    (h : isSignificant (c :: rest) = false) : meaning? (c :: rest) = some [] := by
  rw [meaning?_cons_of_ok hr, List.drop_length, meaning?_nil, List.take_length]
  simp [h]

lemma isSome_meaning?_iff {text : Text} :
    (meaning? text).isSome = true ↔ ∃ ts, tokens text = .ok ts := by
  simp only [Option.isSome_iff_exists, meaning?_eq_some_iff, significantTokens_eq_ok_iff,
    tokens_eq_ok_iff]
  constructor
  · rintro ⟨_, all, hall, _⟩
    exact ⟨_, all, hall, rfl⟩
  · rintro ⟨_, all, hall, _⟩
    exact ⟨_, all, hall, rfl⟩

/-- An inert character on its own. -/
lemma meaning?_singleton {x : Char} (hx : isInert x = true) :
    meaning? [x] = some (if Text.isBlank x then [] else [[x]]) := by
  have hr : reach x [] = .ok 0 := by
    simp [isInert, isIdentifierPart] at hx
    simp [reach, hx]
  have hcomment : isComment [x] = false := by
    simp [isComment, Text.opensWithAny, List.isPrefixOf]
  rw [meaning?_cons_of_ok hr, List.drop_zero, List.take_zero, meaning?_nil]
  cases hblank : Text.isBlank x <;> simp [isSignificant, Text.isBlankRun, hblank, hcomment]

/-- A final character that is inert is a token of its own or no part of one that means
anything. -/
lemma meaning?_concat {x : Char} (hx : isInert x = true) (text : Text) :
    meaning? (text ++ [x]) = meaning? text ∨
      Text.isBlank x = false ∧ meaning? (text ++ [x]) = (meaning? text).map (· ++ [[x]]) := by
  induction text using reach_induction with
  | nil =>
    rw [List.nil_append, meaning?_singleton hx, meaning?_nil]
    cases hblank : Text.isBlank x
    · exact .inr ⟨rfl, rfl⟩
    · exact .inl rfl
  | cons c rest ih =>
    rcases reach_concat hx c rest with heq | ⟨hshort, hlong, hrest, hwhole⟩
    · cases hr : reach c rest with
      | error kind =>
        left
        rw [List.cons_append, meaning?_cons_of_error hr, meaning?_cons_of_error (heq.trans hr)]
      | ok n =>
        have hle := reach_le hr
        rw [List.cons_append, meaning?_cons_of_ok hr, meaning?_cons_of_ok (heq.trans hr),
          List.drop_append_of_le_length hle, List.take_append_of_le_length hle]
        rcases ih n hr with hlater | ⟨hblank, hlater⟩
        · exact .inl (by rw [hlater])
        · refine .inr ⟨hblank, ?_⟩
          rw [hlater, Option.map_map, Option.map_map]
          exact congrArg (Option.map · _) (funext fun later => (List.append_assoc _ _ _).symm)
    · left
      rw [List.cons_append, meaning?_of_reach_length hshort hrest,
        meaning?_of_reach_length (by rw [hlong, List.length_append]; rfl) hwhole]

lemma meaning?_concat_of_isBlank {x : Char} (hx : Text.isBlank x = true) (text : Text) :
    meaning? (text ++ [x]) = meaning? text := by
  rcases meaning?_concat (isInert_of_isBlank hx) text with heq | ⟨hblank, -⟩
  · exact heq
  · rw [hx] at hblank
    contradiction

lemma drop_length_takeWhile (p : Char → Bool) (text : Text) :
    text.drop (text.takeWhile p).length = text.dropWhile p :=
  calc text.drop (text.takeWhile p).length
      = (text.takeWhile p ++ text.dropWhile p).drop (text.takeWhile p).length := by
        rw [List.takeWhile_append_dropWhile]
    _ = text.dropWhile p := List.drop_left

lemma meaning?_dropWhile_isBlank (text : Text) :
    meaning? (text.dropWhile Text.isBlank) = meaning? text := by
  cases text with
  | nil => rfl
  | cons c rest =>
    by_cases hc : Text.isBlank c = true
    · have hr : reach c rest = .ok (rest.takeWhile Text.isBlank).length := by
        rw [reach_eq, opening_of_isBlank hc, Opening.reach]
      have hrun : isSignificant (c :: rest.take (rest.takeWhile Text.isBlank).length) = false := by
        rw [isSignificant, isBlankRun_of_reach hr, hc, Bool.not_true, Bool.false_and]
      rw [List.dropWhile_cons_of_pos hc, meaning?_cons_of_ok hr, drop_length_takeWhile,
        List.filter_cons_of_neg (by simp [hrun])]
      exact Option.map_id'.symm
    · rw [List.dropWhile_cons_of_neg hc]

lemma meaning?_dropEndWhile_isBlank (text : Text) :
    meaning? (Text.dropEndWhile Text.isBlank text) = meaning? text := by
  induction text using List.reverseRecOn with
  | nil => rfl
  | append_singleton text x ih =>
    rw [Text.dropEndWhile, List.reverse_append, List.reverse_singleton, List.singleton_append]
    by_cases hx : Text.isBlank x = true
    · rw [List.dropWhile_cons_of_pos hx, meaning?_concat_of_isBlank hx]
      exact ih
    · rw [List.dropWhile_cons_of_neg hx, List.reverse_cons, List.reverse_reverse]

/-- White space at the two ends of a text means nothing. -/
lemma meaning?_trim (text : Text) : meaning? (Text.trim text) = meaning? text := by
  rw [Text.trim, meaning?_dropEndWhile_isBlank, meaning?_dropWhile_isBlank]

end DiffSieve.Token

/-! ## Final commas and semicolons -/

namespace DiffSieve.Likeness

open Token

/-- Whether two lists of tokens are the same once a final `c` is taken off one of them, if need
be. -/
def SameUpToFinal (c : Char) (old new : List Token) : Prop :=
  old = new ∨ old = new ++ [[c]] ∨ new = old ++ [[c]]

/-- Whether two texts either both split into tokens or both do not, and whether, if they do, their
significant tokens are the same but for a final `c` in one of them. -/
structure MeanSameUpToFinal (c : Char) (old new : Text) : Prop where
  split_iff : (∃ ts, tokens old = .ok ts) ↔ ∃ ts, tokens new = .ok ts
  significant : ∀ ts, tokens old = .ok ts → ∃ oldTokens newTokens,
    significantTokens old = .ok oldTokens ∧ significantTokens new = .ok newTokens ∧
      SameUpToFinal c oldTokens newTokens

lemma concat_of_onlyFinal {c : Char} {old new : Text} (h : onlyFinal c old new = true) :
    old = new ++ [c] ∨ new = old ++ [c] := by
  simp only [onlyFinal, Bool.and_eq_true, beq_iff_eq, bne_iff_ne] at h
  obtain ⟨hdrop, hne⟩ := h
  rcases Text.eq_dropFinal_or c old with hold | hold
  · rcases Text.eq_dropFinal_or c new with hnew | hnew
    · exact absurd (hold.trans (hdrop.trans hnew.symm)) hne
    · right
      rw [hnew, ← hdrop, ← hold]
  · rcases Text.eq_dropFinal_or c new with hnew | hnew
    · left
      rw [hold, hdrop, ← hnew]
    · exact absurd (hold.trans (hdrop ▸ hnew.symm)) hne

lemma meaning?_of_onlyFinal {c : Char} (hc : isInert c = true) {old new : Text}
    (h : onlyFinal c (Text.trim old) (Text.trim new) = true) :
    meaning? old = meaning? new ∨ meaning? old = (meaning? new).map (· ++ [[c]]) ∨
      meaning? new = (meaning? old).map (· ++ [[c]]) := by
  rw [← meaning?_trim old, ← meaning?_trim new]
  rcases concat_of_onlyFinal h with hold | hnew
  · rw [hold]
    rcases meaning?_concat hc (Text.trim new) with heq | ⟨-, heq⟩
    · exact .inl heq
    · exact .inr (.inl heq)
  · rw [hnew]
    rcases meaning?_concat hc (Text.trim old) with heq | ⟨-, heq⟩
    · exact .inl heq.symm
    · exact .inr (.inr heq)

lemma meanSameUpToFinal_of_onlyFinal {c : Char} (hc : isInert c = true) {old new : Text}
    (h : onlyFinal c (Text.trim old) (Text.trim new) = true) : MeanSameUpToFinal c old new := by
  have hmeaning := meaning?_of_onlyFinal hc h
  constructor
  · rw [← isSome_meaning?_iff, ← isSome_meaning?_iff]
    rcases hmeaning with heq | heq | heq
    · rw [heq]
    · rw [heq, Option.isSome_map]
    · rw [heq, Option.isSome_map]
  · intro ts hts
    obtain ⟨oldTokens, hold⟩ := Option.isSome_iff_exists.1 (isSome_meaning?_iff.2 ⟨ts, hts⟩)
    simp only [← meaning?_eq_some_iff]
    rcases hmeaning with heq | heq | heq
    · exact ⟨oldTokens, oldTokens, hold, heq ▸ hold, .inl rfl⟩
    · obtain ⟨newTokens, hnew, rfl⟩ := Option.map_eq_some_iff.1 (heq.symm.trans hold)
      exact ⟨_, newTokens, hold, hnew, .inr (.inl rfl)⟩
    · exact ⟨oldTokens, oldTokens ++ [[c]], hold, by rw [heq, hold]; rfl, .inr (.inr rfl)⟩

/-- What the detectors of final commas and of semicolons accept differs in that token at most. -/
theorem final_mark_is_the_only_difference (old new : Text) :
    (onlyTrailingComma old new = true → MeanSameUpToFinal ',' old new) ∧
      ∀ next, onlySemicolon old new next = true → MeanSameUpToFinal ';' old new := by
  constructor
  · intro h
    simp only [onlyTrailingComma, Bool.and_eq_true] at h
    exact meanSameUpToFinal_of_onlyFinal (by decide) h.2
  · intro next h
    simp only [onlySemicolon, Bool.and_eq_true] at h
    exact meanSameUpToFinal_of_onlyFinal (by decide) h.1

/-- A line that ends in a comment, and the same line with a comma at the end of the comment. -/
def remark : Text × Text :=
  ("  f(x, '/*') // see g".toList, "f(x, '/*') // see g,".toList)

/-- A line that ends in a slash, and the same line with a semicolon. -/
def openDivision : Text × Text :=
  ("y = \"\\\"\" /".toList, "y = \"\\\"\" /; ".toList)

theorem only_difference_of_remark :
    (onlyTrailingComma remark.1 remark.2 = true ∧ MeanSameUpToFinal ',' remark.1 remark.2) ∧
      (onlySemicolon openDivision.1 openDivision.2 none = true ∧
        MeanSameUpToFinal ';' openDivision.1 openDivision.2) := by
  have hcomma : onlyTrailingComma remark.1 remark.2 = true := by decide
  have hsemicolon : onlySemicolon openDivision.1 openDivision.2 none = true := by decide
  exact ⟨⟨hcomma, (final_mark_is_the_only_difference _ _).1 hcomma⟩,
    hsemicolon, (final_mark_is_the_only_difference _ _).2 none hsemicolon⟩

end DiffSieve.Likeness
