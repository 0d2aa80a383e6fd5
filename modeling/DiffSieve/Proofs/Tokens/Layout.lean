import DiffSieve.Noise.Likeness
import DiffSieve.Proofs.Tokens.Blanks

/-!
# Layout

A token that a text splits into is a token on its own as well, since no lexeme needs the character
after it (`IsLexeme.alone`).  The other way round, tokens put one after the other stay what they are
as long as white space separates them: nothing but a line comment goes on into white space, and that
one ends where the line does (`IsLexeme.before_blank`).

`IsLayout` lists the texts that show some tokens in this way.  All layouts of the same tokens are
read alike (`tokens_of_isLayout`), so they differ in white space only.
-/

namespace DiffSieve.Token

/-! ## Ways to show some tokens -/

/-- Whether white space may stand right after a token.  After a line comment it has to begin with
the end of the line. -/
structure MayFollow (token : Token) (gap : Text) : Prop where
  blank : ∀ c ∈ gap, Text.isBlank c = true
  endsLine : ['/', '/'] <+: token → ∀ c ∈ gap.head?, isLineEnd c = true

lemma mayFollow_iff {token : Token} {gap : Text} :
    MayFollow token gap ↔
      gap.all Text.isBlank = true ∧ (['/', '/'] <+: token → gap.head?.all isLineEnd = true) := by
  constructor
  · intro h
    exact ⟨List.all_eq_true.2 h.blank, fun hline => (Option.all_eq_true _ _).2 (h.endsLine hline)⟩
  · rintro ⟨hblank, hends⟩
    exact ⟨List.all_eq_true.1 hblank, fun hline => (Option.all_eq_true _ _).1 (hends hline)⟩

instance (token : Token) (gap : Text) : Decidable (MayFollow token gap) :=
  decidable_of_iff' _ mayFollow_iff

/-- Whether a text shows some tokens, with white space after each that only the last one may do
without. -/
inductive Shows : List Token → Text → Prop
  | nil : Shows [] []
  | last {token : Token} {gap : Text} (hgap : MayFollow token gap) : Shows [token] (token ++ gap)
  | cons {token second : Token} {later : List Token} {gap text : Text}
      (hgap : MayFollow token gap) (hne : gap ≠ []) (hlater : Shows (second :: later) text) :
      Shows (token :: second :: later) (token ++ (gap ++ text))

/-- Whether a text shows some tokens after a margin of white space, which may be empty. -/
inductive IsLayout (ts : List Token) : Text → Prop
  | mk {margin text : Text} (hmargin : ∀ c ∈ margin, Text.isBlank c = true)
      (htext : Shows ts text) : IsLayout ts (margin ++ text)

/-! ## Tokens on their own -/

/-- A lexeme is one at the end of a text. -/
lemma IsLexeme.alone {token : Token} {next : Option Char} (h : IsLexeme token next) :
    IsLexeme token none := by
  have hnone {P : Char → Prop} : ∀ c ∈ (none : Option Char), P c := fun _ hc => by contradiction
  cases h with
  | blank hne hrun => exact .blank hne hrun hnone
  | template hopen hclose => exact .template hopen hclose
  | string hquote hopen hclose => exact .string hquote hopen hclose
  | lineComment htext => exact .lineComment htext hnone
  | blockComment hfirst => exact .blockComment hfirst
  | name hstart hrun => exact .name hstart hrun hnone
  | number hstart hrun => exact .number hstart hrun hnone
  | mark hblank hback hquote hname hdigit =>
    exact .mark hblank hback hquote hname hdigit fun _ => ⟨nofun, nofun⟩

lemma splits_singleton_iff {token : Token} : Splits token [token] ↔ IsLexeme token none := by
  rw [splits_iff]
  simp [AreLexemes]

lemma isLexeme_of_splits {text : Text} {ts : List Token} (h : Splits text ts) :
    ∀ token ∈ ts, IsLexeme token none := by
  intro token hmem
  obtain ⟨next, hnext⟩ := (splits_iff.1 h).2.exists_isLexeme token hmem
  exact hnext.alone

/-- Whether a text is a token on its own and no white space. -/
structure IsBare (token : Token) : Prop where
  isLexeme : IsLexeme token none
  hasBareEnds : HasBareEnds token

lemma isBare_of_tokens {text : Text} {ts : List Token} (h : tokens text = .ok ts) :
    ∀ token ∈ ts, IsBare token := by
  intro token hmem
  obtain ⟨all, hall, rfl⟩ := tokens_eq_ok_iff.1 h
  obtain ⟨hmem, hrun⟩ := List.mem_filter.1 hmem
  have hlexeme := isLexeme_of_splits hall token hmem
  refine ⟨hlexeme, hlexeme.isBlankRun_or_hasBareEnds.resolve_left fun hblank => ?_⟩
  rw [hblank.1] at hrun
  contradiction

/-! ## Tokens with white space between them -/

/-- A token is what it is before white space, which has to end the line after a line comment. -/
lemma IsBare.before_blank {token : Token} (h : IsBare token) {c : Char}
    (hc : Text.isBlank c = true) (hline : ['/', '/'] <+: token → isLineEnd c = true) :
    IsLexeme token (some c) := by
  have hother {p : Char → Bool} (hp : ∀ {d}, p d = true → Text.isBlank d = false) :
      ∀ d ∈ some c, p d = false := by
    rintro _ ⟨⟩
    by_contra hd
    rw [hp (Bool.not_eq_false _ ▸ hd)] at hc
    contradiction
  cases h.isLexeme with
  | blank hne hrun =>
    have hblank := isBlankRun_iff.2 ⟨hne, hrun⟩
    exact absurd hblank (by simp [h.hasBareEnds.isBlankRun_eq_false])
  | template hopen hclose => exact .template hopen hclose
  | string hquote hopen hclose => exact .string hquote hopen hclose
  | lineComment htext =>
    refine .lineComment htext ?_
    rintro _ ⟨⟩
    exact hline (List.prefix_append ['/', '/'] _)
  | blockComment hfirst => exact .blockComment hfirst
  | name hstart hrun => exact .name hstart hrun (hother isBlank_of_isIdentifierPart)
  | number hstart hrun => exact .number hstart hrun (hother isBlank_of_isNumberPart)
  | mark hblank hback hquote hname hdigit =>
    refine .mark hblank hback hquote hname hdigit fun _ => ⟨?_, ?_⟩
    · rintro ⟨⟩
      contradiction
    · rintro ⟨⟩
      contradiction

lemma IsBare.before_gap {token : Token} (h : IsBare token) {gap rest : Text}
    (hgap : MayFollow token gap) (hend : gap = [] → rest = []) :
    IsLexeme token (gap ++ rest).head? := by
  cases gap with
  | nil =>
    rw [hend rfl]
    exact h.isLexeme
  | cons c gap =>
    exact h.before_blank (hgap.blank c List.mem_cons_self) fun hline => hgap.endsLine hline c rfl

/-- The first token of a text, and then the others. -/
lemma tokens_append_of_isLexeme {token : Token} {rest : Text} {ts : List Token}
    (h : IsLexeme token rest.head?) (hrest : tokens rest = .ok ts) :
    tokens (token ++ rest) = .ok ([token].filter (!Text.isBlankRun ·) ++ ts) := by
  obtain ⟨all, hsplits, rfl⟩ := tokens_eq_ok_iff.1 hrest
  obtain ⟨rfl, hall⟩ := splits_iff.1 hsplits
  rw [← List.filter_append]
  refine tokens_of_splits (splits_iff.2 ⟨rfl, ?_, hall⟩)
  rwa [List.append_nil]

lemma tokens_append_of_isBlank {gap rest : Text} {ts : List Token}
    (hgap : ∀ c ∈ gap, Text.isBlank c = true) (hnext : ∀ c ∈ rest.head?, Text.isBlank c = false)
    (hrest : tokens rest = .ok ts) : tokens (gap ++ rest) = .ok ts := by
  by_cases hne : gap = []
  · rwa [hne]
  · have htokens := tokens_append_of_isLexeme (.blank hne hgap hnext) hrest
    rwa [List.filter_cons_of_neg (by simp [isBlankRun_iff.2 ⟨hne, hgap⟩])] at htokens

lemma IsBare.tokens_append {token : Token} (h : IsBare token) {gap rest : Text}
    {ts : List Token} (hgap : MayFollow token gap) (hend : gap = [] → rest = [])
    (hnext : ∀ c ∈ rest.head?, Text.isBlank c = false) (hrest : tokens rest = .ok ts) :
    tokens (token ++ (gap ++ rest)) = .ok (token :: ts) := by
  have hgap' := tokens_append_of_isBlank hgap.blank hnext hrest
  have htokens := tokens_append_of_isLexeme (h.before_gap hgap hend) hgap'
  rwa [List.filter_cons_of_pos (by simp [h.hasBareEnds.isBlankRun_eq_false])] at htokens

lemma IsBare.isBlank_head? {token : Token} (h : IsBare token) (rest : Text) :
    ∀ c ∈ (token ++ rest).head?, Text.isBlank c = false := by
  obtain ⟨c, hc, hbare⟩ := h.hasBareEnds.first
  intro d hd
  rw [List.head?_append, hc] at hd
  exact Option.some.inj hd ▸ hbare

lemma Shows.isBlank_head? {ts : List Token} {text : Text} (h : Shows ts text)
    (hts : ∀ token ∈ ts, IsBare token) : ∀ c ∈ text.head?, Text.isBlank c = false := by
  cases h with
  | nil => exact fun _ hc => by contradiction
  | last => exact (hts _ List.mem_cons_self).isBlank_head? _
  | cons => exact (hts _ List.mem_cons_self).isBlank_head? _

lemma tokens_nil : tokens [] = .ok [] :=
  tokens_of_splits .nil

lemma tokens_of_shows {ts : List Token} {text : Text} (h : Shows ts text)
    (hts : ∀ token ∈ ts, IsBare token) : tokens text = .ok ts := by
  induction h with
  | nil => exact tokens_nil
  | @last token gap hgap =>
    have hbare := hts token List.mem_cons_self
    rw [← List.append_nil gap]
    exact hbare.tokens_append hgap (fun _ => rfl) (fun _ hc => by contradiction) tokens_nil
  | cons hgap hne hlater ih =>
    obtain ⟨hbare, hrest⟩ := List.forall_mem_cons.1 hts
    exact hbare.tokens_append hgap (fun hnil => absurd hnil hne) (hlater.isBlank_head? hrest)
      (ih hrest)

/-- The tokens of a layout are those that it shows. -/
lemma tokens_of_isLayout {ts : List Token} {text : Text} (h : IsLayout ts text)
    (hts : ∀ token ∈ ts, IsBare token) : tokens text = .ok ts := by
  cases h with
  | mk hmargin hshows =>
    exact tokens_append_of_isBlank hmargin (hshows.isBlank_head? hts) (tokens_of_shows hshows hts)

lemma significantTokens_of_tokens {text : Text} {ts : List Token} (h : tokens text = .ok ts) :
    significantTokens text = .ok (ts.filter (!isComment ·)) := by
  obtain ⟨all, hall, rfl⟩ := tokens_eq_ok_iff.1 h
  refine significantTokens_eq_ok_iff.2 ⟨all, hall, ?_⟩
  rw [List.filter_filter]
  exact List.filter_congr fun token _ => Bool.and_comm _ _

lemma onlySpace_of_tokens {old new : Text} {ts : List Token} (hold : tokens old = .ok ts)
    (hnew : tokens new = .ok ts) (hne : old ≠ new) : Likeness.onlySpace old new = true := by
  rw [Likeness.onlySpace, Likeness.sameTokens, significantTokens_of_tokens hold,
    significantTokens_of_tokens hnew]
  simpa using hne

/-- Tokens do not depend on the layout of a text.  Each token of a text is one on its own, and
tokens that are each one on their own are the tokens of every text that shows them with white space
between them.  So two layouts of the same tokens differ in white space only. -/
theorem layout_does_not_matter :
    (∀ text ts, tokensWithBlanks text = .ok ts ∨ tokens text = .ok ts →
      ∀ token ∈ ts, tokensWithBlanks token = .ok [token]) ∧
    ∀ ts : List Token, (∀ token ∈ ts, tokens token = .ok [token]) →
      (∀ text, IsLayout ts text → tokens text = .ok ts) ∧
        ∀ old new, IsLayout ts old → IsLayout ts new → old ≠ new →
          Likeness.onlySpace old new = true := by
  constructor
  · intro text ts h token hmem
    rw [tokensWithBlanks_eq_ok_iff, splits_singleton_iff]
    rcases h with h | h
    · exact isLexeme_of_splits (tokensWithBlanks_eq_ok_iff.1 h) token hmem
    · exact (isBare_of_tokens h token hmem).isLexeme
  · intro ts h
    have hts : ∀ token ∈ ts, IsBare token := fun token hmem =>
      isBare_of_tokens (h token hmem) token (List.mem_singleton_self token)
    refine ⟨fun text htext => tokens_of_isLayout htext hts, fun old new hold hnew hne => ?_⟩
    exact onlySpace_of_tokens (tokens_of_isLayout hold hts) (tokens_of_isLayout hnew hts) hne

/-- A call of which the argument holds white space and the mark of a comment, and a comment that
ends in white space. -/
def spacedTokens : List Token :=
  ["f", "'a  /*'", "// b "].map String.toList

/-- The call on one line. -/
def flatLayout : Text :=
  [] ++ ("f".toList ++ (" ".toList ++ ("'a  /*'".toList ++ (" ".toList ++ ("// b ".toList ++ [])))))

/-- The call on several lines, one of which is indented. -/
def wrappedLayout : Text :=
  "\t ".toList ++ ("f".toList ++ ("\n".toList ++ ("'a  /*'".toList ++ ("\n  ".toList ++
    ("// b ".toList ++ "\r\n ".toList)))))

theorem flat_and_wrapped_spacedTokens :
    IsLayout spacedTokens flatLayout ∧ IsLayout spacedTokens wrappedLayout ∧
      tokens wrappedLayout = .ok spacedTokens ∧
      Likeness.onlySpace flatLayout wrappedLayout = true ∧
      ∀ token ∈ spacedTokens, tokensWithBlanks token = .ok [token] := by
  have halone : ∀ token ∈ spacedTokens, tokens token = .ok [token] := by decide +kernel
  have hflat : IsLayout spacedTokens flatLayout :=
    .mk (List.all_eq_true.1 (by decide)) (.cons (by decide) (by decide)
      (.cons (by decide) (by decide) (.last (by decide))))
  have hwrapped : IsLayout spacedTokens wrappedLayout :=
    .mk (List.all_eq_true.1 (by decide)) (.cons (by decide) (by decide)
      (.cons (by decide) (by decide) (.last (by decide))))
  obtain ⟨htokens, hspace⟩ := layout_does_not_matter.2 spacedTokens halone
  have hread := htokens wrappedLayout hwrapped
  exact ⟨hflat, hwrapped, hread, hspace flatLayout wrappedLayout hflat hwrapped (by decide),
    layout_does_not_matter.1 wrappedLayout spacedTokens (.inr hread)⟩

end DiffSieve.Token
