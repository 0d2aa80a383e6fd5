import DiffSieve.Proofs.Reading
import DiffSieve.Proofs.Tokens.Blanks
import DiffSieve.Proofs.Writing

/-!
# What is refused

A line is refused for its numerals and for nothing else, and whether it is does not depend on where
in a file it stands (`failure?_step`).  So a text is refused exactly if one of its lines from the
first that opens a file on is, and the first of them says why (`failure?_readDiff`).  `IsRefused`
says which lines these are without naming the reader.

After reading nothing fails: a line without tokens has the questions that are asked of its tokens
answered otherwise, and what is written is never too large.
-/

namespace DiffSieve

/-! ## Numerals -/

namespace Number

lemma exists_digits_of_isDecimal {word : Text} (h : ∀ c ∈ word, Text.isDecimal c = true) :
    ∃ digits, word.mapM Text.decimalValue? = some digits := by
  induction word with
  | nil => exact ⟨[], rfl⟩
  | cons c rest ih =>
    obtain ⟨d, hd⟩ := Option.isSome_iff_exists.1 (h c List.mem_cons_self)
    obtain ⟨digits, hdigits⟩ := ih fun e he => h e (List.mem_cons_of_mem _ he)
    exact ⟨d :: digits, by rw [List.mapM_cons, hd, hdigits]; rfl⟩

lemma exists_read_eq_ok_iff {word : Text} :
    (∃ n, read word = .ok n) ↔
      word.length ≤ digitLimit ∧ ∀ c ∈ word, Text.isDecimal c = true := by
  constructor
  · rintro ⟨n, hread⟩
    obtain ⟨digits, hdigits, -, hlimit⟩ := exists_digits_of_read hread
    obtain ⟨hdecimal, hlength, -⟩ := of_mapM_decimalValue? hdigits
    exact ⟨hlength ▸ hlimit, hdecimal⟩
  · rintro ⟨hlimit, hdecimal⟩
    obtain ⟨digits, hdigits⟩ := exists_digits_of_isDecimal hdecimal
    refine ⟨ofDigits digits, ?_⟩
    unfold read
    rw [List.takeWhile_eq_self_iff.2 hdecimal, if_neg (Nat.not_lt_of_le hlimit), hdigits]

/-- A word is no number if it is too long or holds a character that is no decimal digit. -/
lemma isSome_failure?_read_iff {word : Text} :
    (failure? (read word)).isSome = true ↔
      digitLimit < word.length ∨ ∃ c ∈ word, Text.isDecimal c = false := by
  rw [isSome_failure?_iff, exists_read_eq_ok_iff, not_and_or, Nat.not_le]
  simp

end Number

namespace Range

/-- The numerals of a range, as they are written. -/
def numerals (range : Range) : List Text :=
  range.start :: range.count.toList

lemma isDecimal_of_numeral? {text digits rest : Text} (h : numeral? text = some (digits, rest)) :
    ∀ c ∈ digits, Text.isDecimal c = true := by
  unfold numeral? at h
  split at h
  · contradiction
  · cases h
    exact fun c hc => List.mem_takeWhile_imp hc

lemma isDecimal_of_read? {text rest : Text} {range : Range} (h : read? text = some (range, rest)) :
    ∀ word ∈ range.numerals, ∀ c ∈ word, Text.isDecimal c = true := by
  unfold read? at h
  simp only [Option.bind_eq_bind, Option.bind_eq_some_iff, Prod.exists] at h
  obtain ⟨start, afterStart, hstart, h⟩ := h
  split at h
  · cases h
    simpa [numerals] using isDecimal_of_numeral? hstart
  · obtain ⟨⟨count, afterCount⟩, hcount, h⟩ := Option.bind_eq_some_iff.1 h
    cases h
    simpa [numerals] using ⟨isDecimal_of_numeral? hstart, isDecimal_of_numeral? hcount⟩

end Range

namespace HunkHeader

/-- The four numerals of a header, or fewer, as they are written. -/
def numerals (header : HunkHeader) : List Text :=
  [header.old.start, header.new.start] ++ header.old.count.toList ++ header.new.count.toList

lemma isDecimal_of_mem_numerals {line : Text} {header : HunkHeader}
    (h : ofLine? line = some header) :
    ∀ word ∈ header.numerals, ∀ c ∈ word, Text.isDecimal c = true := by
  unfold ofLine? at h
  simp only [Option.bind_eq_bind, Option.bind_eq_some_iff, Prod.exists, Option.pure_def,
    Option.some.injEq] at h
  obtain ⟨_, -, old, _, hold, _, -, new, _, hnew, _, -, rfl⟩ := h
  have hall := List.forall_mem_append.2
    ⟨Range.isDecimal_of_read? hold, Range.isDecimal_of_read? hnew⟩
  intro word hw
  refine hall word ?_
  simp only [numerals, Range.numerals, List.mem_append, List.mem_cons] at hw ⊢
  tauto

lemma failure?_declaredCount (range : Range) :
    failure? (declaredCount range) =
      range.count.toList.findSome? fun word => failure? (Number.read word) := by
  unfold declaredCount
  cases range.count with
  | none => rfl
  | some count => cases h : failure? (Number.read count) <;> simp [h]

/-- A header is refused for the first of its numerals that is. -/
lemma failure?_opened (line : Text) (header : HunkHeader) :
    failure? (header.opened line) =
      header.numerals.findSome? fun word => failure? (Number.read word) := by
  have hopened : failure? (header.opened line) =
      (failure? (Number.read header.old.start)).or ((failure? (Number.read header.new.start)).or
        ((failure? (declaredCount header.old)).or
          ((failure? (declaredCount header.new)).or none))) :=
    failure?_bind fun _ _ => failure?_bind fun _ _ => failure?_bind fun _ _ =>
      failure?_bind fun _ _ => rfl
  rw [hopened, failure?_declaredCount, failure?_declaredCount, numerals, List.append_assoc,
    List.findSome?_append, List.findSome?_append]
  cases hold : failure? (Number.read header.old.start) <;>
    cases hnew : failure? (Number.read header.new.start) <;> simp [hold, hnew]

end HunkHeader

/-! ## Lines -/

/-- Why a line in a file is refused, if it is. -/
def refusal? (line : Text) : Option Number.Fault :=
  match Role.ofLine line with
  | .hunk header => header.numerals.findSome? fun word => failure? (Number.read word)
  | .extended (.similarity word) =>
    if !word.isEmpty && word.all Text.isDigit then failure? (Number.read word) else none
  | _ => none

/-- A line is refused in whichever place of a file it stands. -/
lemma Place.failure?_step {place : Place} {file : File} (hp : place.file? = some file)
    (line : Text) : failure? (place.step line (Role.ofLine line)) = refusal? line := by
  unfold refusal?
  cases Role.ofLine line with
  | file | noise => rfl
  | hunk header =>
    simp only [step, hp, failure?_map]
    exact HunkHeader.failure?_opened line header
  | extended field =>
    simp only [step, hp, failure?_map]
    cases field with
    | similarity word =>
      simp only [File.record]
      split
      · cases Number.read word <;> rfl
      · rfl
    | _ => rfl
  | content => cases place <;> rfl

lemma refusal?_of_file {line paths : Text} (h : Role.ofLine line = .file paths) :
    refusal? line = none := by
  rw [refusal?, h]

/-! ## Texts -/

/-- In a file, the first line that is refused has the text refused. -/
lemma failure?_readFrom {place : Place} {file : File} (hp : place.file? = some file)
    (lines : List Text) : failure? (readFrom place lines) = lines.findSome? refusal? := by
  induction lines generalizing place file with
  | nil => rfl
  | cons line rest ih =>
    rw [List.findSome?_cons]
    by_cases hfile : ∃ paths, Role.ofLine line = .file paths
    · obtain ⟨paths, hrole⟩ := hfile
      rw [readFrom_cons_of_file place hrole, failure?_map, refusal?_of_file hrole]
      exact ih rfl
    · have hrole : ∀ paths, Role.ofLine line ≠ .file paths := fun paths hr => hfile ⟨paths, hr⟩
      have hrest (place' : Place) (hstep : place.step line (Role.ofLine line) = .ok place') :
          failure? (readFrom place' rest) = rest.findSome? refusal? := by
        obtain ⟨file', hp'⟩ := (Place.moves_of_step hrole hstep).exists_file hp
        exact ih hp'
      rw [readFrom_cons_of_step place hrole, failure?_bind hrest, Place.failure?_step hp]
      cases refusal? line <;> rfl

/-- Nothing is recorded before there is a file. -/
lemma Place.step_outside {role : Role} (h : ∀ paths, role ≠ .file paths) (line : Text) :
    outside.step line role = .ok outside := by
  cases role with
  | file paths => exact absurd rfl (h paths)
  | noise | hunk | extended | content => rfl

/-- The lines of a text from the first that opens a file on. -/
def linesInFiles (text : Text) : List Text :=
  (Text.lines text).dropWhile (!opensFile ·)

/-- The lines before the first that opens a file have no part in what is read. -/
lemma readDiff_eq_readFrom (text : Text) :
    readDiff text = readFrom .outside (linesInFiles text) := by
  rw [readDiff, linesInFiles]
  induction Text.lines text with
  | nil => rfl
  | cons line rest ih =>
    cases hopens : opensFile line with
    | true => rw [List.dropWhile_cons_of_neg (by simp [hopens])]
    | false =>
      have hrole : ∀ paths, Role.ofLine line ≠ .file paths := by
        intro paths hr
        have hfile := opens_of_role line
        rw [hr, hopens] at hfile
        contradiction
      rw [List.dropWhile_cons_of_pos (by simp [hopens]), readFrom_cons_of_step _ hrole,
        Place.step_outside hrole]
      exact ih

/-- A text is refused for the first of its lines that is refused, those before the first file left
aside. -/
lemma failure?_readDiff (text : Text) :
    failure? (readDiff text) = (linesInFiles text).findSome? refusal? := by
  rw [readDiff_eq_readFrom]
  cases hlines : linesInFiles text with
  | nil => rfl
  | cons line rest =>
    have hopens : opensFile line = true := by
      have hhead := List.head?_dropWhile_not (!opensFile ·) (Text.lines text)
      rw [← linesInFiles, hlines] at hhead
      simpa using hhead
    obtain ⟨paths, hrole⟩ := role_of_fileLead (List.isPrefixOf_iff_prefix.1 hopens)
    rw [readFrom_cons_of_file _ hrole, failure?_map, List.findSome?_cons, refusal?_of_file hrole]
    exact failure?_readFrom rfl rest

/-! ## Lines that are refused, said without the reader -/

lemma Text.afterLast_append (lead : Text) (c : Char) (rest : Text) :
    afterLast c (lead ++ c :: rest) = afterLast c rest := by
  unfold afterLast
  rw [List.reverse_append, List.reverse_cons, List.append_assoc, List.singleton_append,
    List.takeWhile_append]
  split
  · next hall =>
    rw [List.takeWhile_cons_of_neg (by simp), List.append_nil,
      (List.takeWhile_prefix _).eq_of_length hall]
  · rfl

/-- What a line says its similarity is, if it says so. -/
def similarityWord (line : Text) : Text :=
  Text.dropEndWhile (· = '%') (Attribute.lastWord line)

/-- The words that a line with a similarity opens with. -/
def similarityLead : Text := "similarity index ".toList

/-- Whether a line holds a numeral that is refused: one in the header of a hunk with too many
digits, or digits for a similarity that are too many or no decimal ones. -/
inductive IsRefused (line : Text) : Prop where
  | header {header : HunkHeader} {word : Text} (hl : HunkHeader.ofLine? line = some header)
      (hw : word ∈ header.numerals) (hlong : Number.digitLimit < word.length) : IsRefused line
  | similarity (hl : similarityLead <+: line) (hne : similarityWord line ≠ [])
      (hdigits : ∀ c ∈ similarityWord line, Text.isDigit c = true)
      (hword : Number.digitLimit < (similarityWord line).length ∨
        ∃ c ∈ similarityWord line, Text.isDecimal c = false) : IsRefused line

lemma HunkHeader.isSome_findSome?_iff {line : Text} {header : HunkHeader}
    (h : HunkHeader.ofLine? line = some header) :
    (header.numerals.findSome? fun word => failure? (Number.read word)).isSome = true ↔
      ∃ word ∈ header.numerals, Number.digitLimit < word.length := by
  rw [List.isSome_findSome?, List.any_eq_true]
  refine exists_congr fun word => and_congr_right fun hw => ?_
  rw [Number.isSome_failure?_read_iff, or_iff_left]
  rintro ⟨c, hc, hdecimal⟩
  rw [HunkHeader.isDecimal_of_mem_numerals h word hw c hc] at hdecimal
  contradiction

lemma HunkHeader.role_of_ofLine? {line : Text} {header : HunkHeader}
    (h : ofLine? line = some header) : Role.ofLine line = .hunk header := by
  have hopens : opensHunk line = true := by rw [opensHunk, h, Option.isSome_some]
  have hlooks := looksLikeHeader_of_opensHunk hopens
  have hfile : Text.after? fileLead line = none := by
    obtain ⟨rest, rfl⟩ := List.isPrefixOf_iff_prefix.1 hlooks
    rfl
  rw [Role.ofLine, hfile]
  simp only [show "@@".toList.isPrefixOf line = true from hlooks, if_true, h]

lemma similarityWord_append (rest : Text) :
    Attribute.similarity (similarityWord (similarityLead ++ rest)) =
      Attribute.ofSimilarity rest := by
  have hlead : similarityLead = "similarity index".toList ++ [' '] := by decide
  have hword : Attribute.lastWord (similarityLead ++ rest) = Attribute.lastWord rest := by
    rw [hlead, List.append_assoc]
    exact Text.afterLast_append _ ' ' rest
  rw [similarityWord, hword, Attribute.ofSimilarity]

lemma Attribute.eq_ofSimilarity {line word : Text} (h : ofLine? line = some (.similarity word)) :
    ∃ rest, line = similarityLead ++ rest ∧ Attribute.similarity word = ofSimilarity rest := by
  have hindex : ∀ rest, ofIndex rest ≠ .similarity word := by
    intro rest
    unfold ofIndex
    split <;> simp
  simp only [ofLine?, Option.orElse_eq_orElse, Option.orElse_eq_or, Option.or_eq_some_iff,
    Option.map_eq_some_iff, reduceCtorEq, and_false, exists_false, false_or, hindex, or_false] at h
  obtain ⟨-, -, -, -, -, -, rest, hrest, hword⟩ := h
  exact ⟨rest, Text.after?_eq_some_iff.1 hrest, hword.symm⟩

/-- A line is one with a similarity exactly if it opens with the words for it. -/
lemma role_eq_similarity_iff {line word : Text} :
    Role.ofLine line = .extended (.similarity word) ↔
      similarityLead <+: line ∧ similarityWord line = word := by
  constructor
  · intro h
    have hline := read_of_role line
    rw [h] at hline
    obtain ⟨rest, rfl, hword⟩ := Attribute.eq_ofSimilarity hline
    rw [← similarityWord_append] at hword
    exact ⟨List.prefix_append _ _, (Attribute.similarity.inj hword).symm⟩
  · rintro ⟨⟨rest, rfl⟩, rfl⟩
    rw [similarityWord_append]
    rfl

lemma isSome_refusal?_iff (line : Text) : (refusal? line).isSome = true ↔ IsRefused line := by
  constructor
  · intro h
    unfold refusal? at h
    split at h
    · next header hrole =>
      have hline := read_of_role line
      rw [hrole] at hline
      obtain ⟨word, hw, hlong⟩ := (HunkHeader.isSome_findSome?_iff hline).1 h
      exact .header hline hw hlong
    · next word hrole =>
      obtain ⟨hl, rfl⟩ := role_eq_similarity_iff.1 hrole
      split at h
      · next hdigits =>
        simp only [Bool.and_eq_true, Bool.not_eq_true', List.isEmpty_eq_false_iff,
          List.all_eq_true] at hdigits
        exact .similarity hl hdigits.1 hdigits.2 (Number.isSome_failure?_read_iff.1 h)
      · contradiction
    · contradiction
  · intro h
    cases h with
    | header hl hw hlong =>
      rw [refusal?, HunkHeader.role_of_ofLine? hl]
      exact (HunkHeader.isSome_findSome?_iff hl).2 ⟨_, hw, hlong⟩
    | similarity hl hne hdigits hword =>
      have hrole := role_eq_similarity_iff.2 ⟨hl, rfl⟩
      have hcond : (!(similarityWord line).isEmpty && (similarityWord line).all Text.isDigit) =
          true := by
        simpa using ⟨hne, hdigits⟩
      rw [refusal?, hrole]
      simp only [hcond, if_true]
      exact Number.isSome_failure?_read_iff.2 hword

/-- A text is refused exactly if a line in its files is. -/
lemma exists_readDiff_eq_error_iff {text : Text} :
    (∃ fault, readDiff text = .error fault) ↔ ∃ line ∈ linesInFiles text, IsRefused line := by
  calc (∃ fault, readDiff text = .error fault)
      ↔ (failure? (readDiff text)).isSome = true := by
        simp only [Option.isSome_iff_exists, failure?_eq_some_iff]
    _ ↔ ∃ line ∈ linesInFiles text, IsRefused line := by
        simp only [failure?_readDiff, List.isSome_findSome?, List.any_eq_true,
          isSome_refusal?_iff]

/-! ## Lines without tokens -/

/-- Whether a text opens a literal or a comment that it does not close, so that it has no tokens. -/
def Token.Unsplittable (text : Text) : Prop :=
  ∃ fault, tokens text = .error fault

variable {old new : Text}

lemma Likeness.sameTokens_of_unsplittable (h : Token.Unsplittable old ∨ Token.Unsplittable new)
    (fallback : Bool) : sameTokens fallback old new = fallback := by
  have herror {text : Text} (ht : Token.Unsplittable text) :
      ∃ fault, Token.significantTokens text = .error fault := by
    obtain ⟨fault, hfault⟩ := ht
    exact ⟨fault, Except.map_eq_error_iff.2 (Token.tokens_eq_error_iff.1 hfault)⟩
  unfold sameTokens
  rcases h with hold | hnew
  · obtain ⟨fault, hfault⟩ := herror hold
    rw [hfault]
  · obtain ⟨fault, hfault⟩ := herror hnew
    rw [hfault]
    cases Token.significantTokens old <;> rfl

lemma Detection.isRewrapped_of_unsplittable (h : Token.Unsplittable old ∨ Token.Unsplittable new) :
    isRewrapped old new = false := by
  have herror {text : Text} (ht : Token.Unsplittable text) :
      ∃ fault, wrapTokens text = .error fault := by
    obtain ⟨fault, hfault⟩ := ht
    exact ⟨fault, Except.map_eq_error_iff.2 hfault⟩
  unfold isRewrapped
  rcases h with hold | hnew
  · obtain ⟨fault, hfault⟩ := herror hold
    rw [hfault, Bool.and_false]
  · obtain ⟨fault, hfault⟩ := herror hnew
    rw [hfault]
    cases wrapTokens old <;> exact Bool.and_false _

lemma Attribute.exists_ofIndex_eq (rest : Text) :
    ∃ names more, rest.splitOn ' ' = names :: more ∧
      ofIndex rest = .index (contentNames names) more.head? := by
  cases hsplit : rest.splitOn ' ' with
  | nil => exact absurd hsplit (List.splitOn_ne_nil _ _)
  | cons names more => exact ⟨names, more, rfl, by rw [ofIndex, hsplit]⟩

/-- A text is refused exactly if a line of it holds a refused numeral, those before the first file
left aside, which have no part in what is read.  On every other text the reader succeeds: the pieces
it takes from the words of a line are there, and it is in a file where it records something.  The
text is then cleaned for every choice of categories and of paths that pass through.  The only
numbers in the cleaned text that could be too large are the counts of its hunks, and they are not if
the text has fewer lines than there are numbers that can be written, as every text has that a
machine can hold.  Two texts of which one has no tokens are compared without them. -/
theorem only_refused_numerals_fail (text : Text) :
    ((∃ fault, readDiff text = .error fault) ↔ ∃ line ∈ linesInFiles text, IsRefused line) ∧
    readDiff text = readFrom .outside (linesInFiles text) ∧
    (∀ rest, ∃ names more, rest.splitOn ' ' = names :: more ∧
      Attribute.ofIndex rest = .index (Attribute.contentNames names) more.head?) ∧
    (∀ config passes,
      (∀ fault, clean config passes text = .error fault ↔ readDiff text = .error fault) ∧
      ∀ cleaned, clean config passes text = .ok cleaned →
        (writeDiff cleaned.sieved.files = .ok cleaned.text ↔
          CountsReadable cleaned.sieved.files) ∧
        ((Text.lines text).length < 10 ^ Number.digitLimit →
          writeDiff cleaned.sieved.files = .ok cleaned.text)) ∧
    ∀ old new, Token.Unsplittable old ∨ Token.Unsplittable new →
      Likeness.onlySpace old new =
        (!(Text.words old).isEmpty && Text.words old == Text.words new) ∧
      Likeness.onlyComments old new =
        (Dialect.isCommentLine old && Dialect.isCommentLine new &&
          Text.trim old != Text.trim new) ∧
      Detection.isRewrapped old new = false := by
  refine ⟨exists_readDiff_eq_error_iff, readDiff_eq_readFrom text, Attribute.exists_ofIndex_eq,
    fun config passes => ⟨fun fault => Except.map_eq_error_iff, fun cleaned hclean => ?_⟩,
    fun old new h => ⟨Likeness.sameTokens_of_unsplittable h _,
      Likeness.sameTokens_of_unsplittable h _, Detection.isRewrapped_of_unsplittable h⟩⟩
  obtain ⟨hread, hsieved⟩ := clean_eq_ok_iff.1 hclean
  have hwritable : ∀ left ∈ cleaned.sieved.files, left.Writable := by
    rw [hsieved]
    exact writable_sieve (writable_of_readDiff hread)
  have hwrites : Writes (writeDiff cleaned.sieved.files) _ cleaned.text :=
    writes_writeDiff hwritable
  exact ⟨hwrites.eq_ok_iff, fun hfew => hwrites.of_pos (countsReadable_of_few_lines hclean hfew)⟩

/-- A file whose similarity is a digit that is no decimal one. -/
def superscriptText : Text :=
  "diff --git a/x.ts b/y.ts\nsimilarity index ²%\n".toList

theorem refused_of_superscriptText :
    (∃ fault, readDiff superscriptText = .error fault) ∧
    (∃ cleaned, clean { whitespace := true } (fun _ => false) sampleText = .ok cleaned ∧
      writeDiff cleaned.sieved.files = .ok cleaned.text) ∧
    Token.Unsplittable "'a".toList ∧ Likeness.onlySpace "'a".toList "'a ".toList = true := by
  obtain ⟨hrefused, -⟩ := only_refused_numerals_fail superscriptText
  obtain ⟨-, -, -, hclean, hcompared⟩ := only_refused_numerals_fail sampleText
  have hline : IsRefused "similarity index ²%".toList :=
    .similarity ⟨_, rfl⟩ (by decide) (List.all_eq_true.1 (by decide))
      (.inr ⟨'²', by decide, by decide⟩)
  have hsample : clean { whitespace := true } (fun _ => false) sampleText =
      .ok ⟨[sampleFile], sieve { whitespace := true } (fun _ => false) [sampleFile]⟩ :=
    clean_eq_ok_iff.2 ⟨readDiff_sampleText, rfl⟩
  have hfew : (Text.lines sampleText).length < 10 ^ Number.digitLimit :=
    calc (Text.lines sampleText).length
        < 10 ^ 1 := by decide
      _ ≤ 10 ^ Number.digitLimit := Nat.pow_le_pow_right (by decide) (by decide)
  have hopen : Token.Unsplittable "'a".toList := by
    refine ⟨⟨.string, 0⟩, ?_⟩
    show Token.tokensFrom false 0 ['\'', 'a'] = _
    rw [Token.tokensFrom]
    rfl
  refine ⟨hrefused.2 ⟨_, by decide, hline⟩, ⟨_, hsample, ((hclean _ _).2 _ hsample).2 hfew⟩,
    hopen, ?_⟩
  rw [(hcompared _ _ (.inl hopen)).1]
  decide

end DiffSieve
