import DiffSieve.Token
import Mathlib.Data.List.Infix
import Mathlib.Logic.Function.Iterate

/-!
# Commas before closing brackets

A list that is wrapped over several lines may get a comma after its last item, right before the
closing bracket.  Such commas are dropped before the tokens of two layouts are compared.  A comma is
judged by the token that came after it at first (`dropWrapCommas_eq_map_zipIdx`), so that one round
takes the last comma of each run before a closing bracket and leaves the others
(`holdsRun_dropWrapCommas_iff`).

Only the last comma of a run can come from a wrap.  Those before it stand for items left out, as in
`[1,,]`, and to drop them as well would make different lists alike.  So what is left may hold a
comma right before a bracket again (`comma_left_over`), and it takes as many rounds as the longest
run has commas until nothing more is dropped (`iterate_dropWrapCommas_eq_iff`).
-/

namespace DiffSieve.Token

/-- Whether the token at a place is a comma with a closing bracket right after it. -/
def isWrapComma (ts : List Token) (place : Nat) : Bool :=
  ts[place]? = some [','] && ts[place + 1]?.any isClosingBracket

/-- Whether the tokens open with `n` commas in a row and a closing bracket right after them. -/
def OpensWithRun (n : Nat) (ts : List Token) : Prop :=
  ∃ bracket, isClosingBracket bracket = true ∧ List.replicate n [','] ++ [bracket] <+: ts

/-- Whether there are `n` commas in a row somewhere, with a closing bracket right after them. -/
def HoldsRun (n : Nat) (ts : List Token) : Prop :=
  ∃ bracket, isClosingBracket bracket = true ∧ List.replicate n [','] ++ [bracket] <:+: ts

/-- Only the tokens themselves come into question as the bracket. -/
lemma exists_mem_iff_holdsRun {n : Nat} {ts : List Token} :
    (∃ bracket ∈ ts, isClosingBracket bracket = true ∧
      List.replicate n [','] ++ [bracket] <:+: ts) ↔ HoldsRun n ts := by
  refine exists_congr fun bracket => and_iff_right_of_imp fun ⟨_, hinfix⟩ => ?_
  exact hinfix.subset (List.mem_append_right _ (List.mem_singleton_self bracket))

instance (n : Nat) (ts : List Token) : Decidable (HoldsRun n ts) :=
  decidable_of_iff _ exists_mem_iff_holdsRun

section

variable {n : Nat} {token : Token} {rest ts : List Token}

/-! ## Runs, token by token -/

lemma not_opensWithRun_nil : ¬ OpensWithRun n [] := by
  rintro ⟨bracket, -, hprefix⟩
  simp at hprefix

lemma opensWithRun_zero_cons :
    OpensWithRun 0 (token :: rest) ↔ isClosingBracket token = true := by
  simp [OpensWithRun, List.cons_prefix_cons]

lemma opensWithRun_succ_cons :
    OpensWithRun (n + 1) (token :: rest) ↔ token = [','] ∧ OpensWithRun n rest := by
  simp only [OpensWithRun, List.replicate_succ, List.cons_append, List.cons_prefix_cons]
  constructor
  · rintro ⟨bracket, hbracket, rfl, hprefix⟩
    exact ⟨rfl, bracket, hbracket, hprefix⟩
  · rintro ⟨rfl, bracket, hbracket, hprefix⟩
    exact ⟨bracket, hbracket, rfl, hprefix⟩

/-- No comma comes first where a closing bracket does. -/
lemma not_opensWithRun_succ (h : OpensWithRun 0 ts) : ¬ OpensWithRun (n + 1) ts := by
  cases ts with
  | nil => exact not_opensWithRun_nil
  | cons token rest =>
    rw [opensWithRun_succ_cons]
    rintro ⟨rfl, -⟩
    exact absurd (opensWithRun_zero_cons.1 h) (by decide)

lemma not_holdsRun_nil : ¬ HoldsRun n [] := by
  rintro ⟨bracket, -, hinfix⟩
  simp at hinfix

lemma holdsRun_cons :
    HoldsRun n (token :: rest) ↔ OpensWithRun n (token :: rest) ∨ HoldsRun n rest := by
  simp only [HoldsRun, OpensWithRun, List.infix_cons_iff, and_or_left, exists_or]

lemma OpensWithRun.holdsRun (h : OpensWithRun n ts) : HoldsRun n ts := by
  obtain ⟨bracket, hbracket, hprefix⟩ := h
  exact ⟨bracket, hbracket, hprefix.isInfix⟩

/-! ## What a round drops -/

lemma isWrapComma_zero_iff :
    isWrapComma (token :: rest) 0 = true ↔ OpensWithRun 1 (token :: rest) := by
  rw [opensWithRun_succ_cons]
  cases rest with
  | nil => simp [isWrapComma, not_opensWithRun_nil]
  | cons next rest => simp [isWrapComma, opensWithRun_zero_cons]

lemma dropWrapCommas_cons (token : Token) (rest : List Token) :
    dropWrapCommas (token :: rest) =
      if isWrapComma (token :: rest) 0 then dropWrapCommas rest
      else token :: dropWrapCommas rest := by
  cases rest <;> simp [isWrapComma, dropWrapCommas]

lemma dropWrapCommas_cons_of_opensWithRun (h : OpensWithRun 1 (token :: rest)) :
    dropWrapCommas (token :: rest) = dropWrapCommas rest := by
  rw [dropWrapCommas_cons, if_pos (isWrapComma_zero_iff.2 h)]

lemma dropWrapCommas_cons_of_not_opensWithRun (h : ¬ OpensWithRun 1 (token :: rest)) :
    dropWrapCommas (token :: rest) = token :: dropWrapCommas rest := by
  rw [dropWrapCommas_cons, if_neg (mt isWrapComma_zero_iff.1 h)]

/-- What is left are the tokens at all places but those of the commas with a closing bracket right
after them. -/
lemma dropWrapCommas_eq_map_zipIdx (ts : List Token) :
    dropWrapCommas ts = (ts.zipIdx.filter (!isWrapComma ts ·.2)).map Prod.fst := by
  induction ts with
  | nil => rfl
  | cons token rest ih =>
    -- Among all tokens each later one stands a place further than in the rest.
    have hlater : ((rest.zipIdx 1).filter (!isWrapComma (token :: rest) ·.2)).map Prod.fst =
        dropWrapCommas rest := by
      rw [ih, List.zipIdx_succ, List.filter_map, List.map_map]
      rfl
    rw [dropWrapCommas_cons, List.zipIdx_cons, List.filter_cons, ← hlater]
    cases isWrapComma (token :: rest) 0 <;> simp

lemma length_dropWrapCommas_le (ts : List Token) : (dropWrapCommas ts).length ≤ ts.length := by
  rw [dropWrapCommas_eq_map_zipIdx, List.length_map]
  exact Nat.le_trans (List.length_filter_le _ _) (Nat.le_of_eq List.length_zipIdx)

/-- Nothing is dropped exactly if no comma has a closing bracket right after it. -/
lemma dropWrapCommas_eq_self_iff : dropWrapCommas ts = ts ↔ ¬ HoldsRun 1 ts := by
  induction ts with
  | nil => exact iff_of_true rfl not_holdsRun_nil
  | cons token rest ih =>
    rw [dropWrapCommas_cons, holdsRun_cons, ← isWrapComma_zero_iff, not_or, ← ih]
    cases isWrapComma (token :: rest) 0 with
    | false => simp
    | true =>
      have hlength := length_dropWrapCommas_le rest
      refine iff_of_false (fun heq => ?_) (fun hkept => hkept.1 rfl)
      rw [if_pos rfl] at heq
      rw [heq, List.length_cons] at hlength
      omega

/-! ## What a round leaves of a run -/

/-- A closing bracket comes first after a round if it came first before, or after one comma. -/
lemma opensWithRun_zero_dropWrapCommas_iff :
    OpensWithRun 0 (dropWrapCommas ts) ↔ OpensWithRun 0 ts ∨ OpensWithRun 1 ts := by
  induction ts with
  | nil => simp [dropWrapCommas, not_opensWithRun_nil]
  | cons token rest ih =>
    by_cases h : OpensWithRun 1 (token :: rest)
    · have hrest := (opensWithRun_succ_cons.1 h).2
      rw [dropWrapCommas_cons_of_opensWithRun h]
      exact iff_of_true (ih.2 (.inl hrest)) (.inr h)
    · rw [dropWrapCommas_cons_of_not_opensWithRun h, or_iff_left h, opensWithRun_zero_cons,
        opensWithRun_zero_cons]

/-- A round takes one comma from the run that comes first. -/
lemma opensWithRun_dropWrapCommas_iff :
    OpensWithRun (n + 1) (dropWrapCommas ts) ↔ OpensWithRun (n + 2) ts := by
  induction ts generalizing n with
  | nil => exact iff_of_false not_opensWithRun_nil not_opensWithRun_nil
  | cons token rest ih =>
    by_cases h : OpensWithRun 1 (token :: rest)
    · -- The comma goes, and a bracket comes first.
      have hrest := (opensWithRun_succ_cons.1 h).2
      have hleft : OpensWithRun 0 (dropWrapCommas rest) :=
        opensWithRun_zero_dropWrapCommas_iff.2 (.inl hrest)
      rw [dropWrapCommas_cons_of_opensWithRun h, opensWithRun_succ_cons]
      exact iff_of_false (not_opensWithRun_succ hleft) fun hrun =>
        not_opensWithRun_succ hrest hrun.2
    · rw [dropWrapCommas_cons_of_not_opensWithRun h, opensWithRun_succ_cons,
        opensWithRun_succ_cons]
      refine and_congr_right fun hcomma => ?_
      cases n with
      | zero =>
        have hrest : ¬ OpensWithRun 0 rest := fun hrest =>
          h (opensWithRun_succ_cons.2 ⟨hcomma, hrest⟩)
        rw [opensWithRun_zero_dropWrapCommas_iff, or_iff_right hrest]
      | succ n => exact ih

/-- A run of commas is there after a round exactly if one with a comma more was there before. -/
lemma holdsRun_dropWrapCommas_iff :
    HoldsRun (n + 1) (dropWrapCommas ts) ↔ HoldsRun (n + 2) ts := by
  induction ts with
  | nil => exact iff_of_false not_holdsRun_nil not_holdsRun_nil
  | cons token rest ih =>
    rw [holdsRun_cons, ← opensWithRun_dropWrapCommas_iff, ← ih, dropWrapCommas_cons]
    split
    · exact (or_iff_right_of_imp OpensWithRun.holdsRun).symm
    · exact holdsRun_cons

/-! ## Several rounds -/

/-- Each round takes one comma from every run. -/
lemma holdsRun_iterate_dropWrapCommas_iff (rounds : Nat) :
    HoldsRun (n + 1) (dropWrapCommas^[rounds] ts) ↔ HoldsRun (n + rounds + 1) ts := by
  induction rounds generalizing ts with
  | zero => rfl
  | succ rounds ih => exact ih.trans holdsRun_dropWrapCommas_iff

/-- Some rounds leave nothing to drop exactly if no run has more commas than there are rounds. -/
lemma iterate_dropWrapCommas_eq_iff (rounds : Nat) :
    dropWrapCommas^[rounds + 1] ts = dropWrapCommas^[rounds] ts ↔ ¬ HoldsRun (rounds + 1) ts := by
  rw [Function.iterate_succ_apply', dropWrapCommas_eq_self_iff,
    holdsRun_iterate_dropWrapCommas_iff, Nat.zero_add]

end

/-- A round drops the commas that have a closing bracket right after them, and nothing else.  What
it leaves holds such a comma exactly if two commas in a row had a closing bracket right after them,
and exactly then a second round drops something.  Any number of rounds leaves nothing to drop
exactly if no run of commas before a closing bracket has more commas than there are rounds. -/
theorem each_run_loses_one_comma (ts : List Token) :
    dropWrapCommas ts = (ts.zipIdx.filter (!isWrapComma ts ·.2)).map Prod.fst ∧
      (HoldsRun 1 (dropWrapCommas ts) ↔ HoldsRun 2 ts) ∧
      (dropWrapCommas (dropWrapCommas ts) = dropWrapCommas ts ↔ ¬ HoldsRun 2 ts) ∧
      ∀ rounds, dropWrapCommas^[rounds + 1] ts = dropWrapCommas^[rounds] ts ↔
        ¬ HoldsRun (rounds + 1) ts :=
  ⟨dropWrapCommas_eq_map_zipIdx ts, holdsRun_dropWrapCommas_iff,
    iterate_dropWrapCommas_eq_iff 1, iterate_dropWrapCommas_eq_iff⟩

/-- A list with its last item left out. -/
def holeTokens : List Token :=
  [['['], ['1'], [','], [','], [']']]

/-- The comma for the item left out comes to stand right before the bracket, where a second round
drops it. -/
theorem comma_left_over :
    tokens "[1,,]".toList = .ok holeTokens ∧
      dropWrapCommas holeTokens = [['['], ['1'], [','], [']']] ∧
      HoldsRun 1 (dropWrapCommas holeTokens) ∧
      dropWrapCommas (dropWrapCommas holeTokens) ≠ dropWrapCommas holeTokens :=
  ⟨by decide +kernel, by decide, by decide, by decide⟩

end DiffSieve.Token
