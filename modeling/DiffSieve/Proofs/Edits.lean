import DiffSieve.Diff.Block
import DiffSieve.Proofs.Numbering

/-!
# The changed lines of a hunk

`edits` lists the changed lines of a hunk block by block, and this file says what may be relied on
without looking at the blocks again.  The edits are the changed lines, in order
(`map_toLine_edits`).  Their places ascend, so that an edit stands in one block only
(`block_eq_of_mem`).  In a numbered hunk the numbers of each version ascend
(`Numbered.pairwise_numberIn`), so that side and number determine the edit (`edit_eq_of_number`):
this is what makes sets of numbers as good as sets of lines.

The pairs of a hunk take both lines from one block, and no added line is in two of them
(`pair_eq_of_added`).
-/

namespace DiffSieve

/-! ## Edits, line by line -/

/-- The edit that a line at the given place is, if it stands in one version only. -/
def Line.edit? (index : Nat) : Line → Option Edit
  | .context .. => none
  | .removed content old => some ⟨index, .old, content, old⟩
  | .added content new => some ⟨index, .new, content, new⟩

/-- The edits of some lines, the first of which has the given place. -/
def editsFrom (index : Nat) (lines : List Line) : List Edit :=
  ((segmentsFrom index lines).filterMap Segment.block?).flatten

lemma Segment.flatten_blocks_consEdit (edit : Edit) (segments : List Segment) :
    ((consEdit edit segments).filterMap block?).flatten =
      edit :: (segments.filterMap block?).flatten := by
  unfold consEdit
  split <;> simp [block?]

lemma editsFrom_cons (index : Nat) (line : Line) (rest : List Line) :
    editsFrom index (line :: rest) = (line.edit? index).toList ++ editsFrom (index + 1) rest := by
  have hstep : segmentsFrom index (line :: rest) =
      Segment.consLine (line, index) (segmentsFrom (index + 1) rest) := rfl
  rw [editsFrom, hstep]
  cases line with
  | context => rfl
  | removed => simp [Segment.consLine, Segment.flatten_blocks_consEdit, Line.edit?, editsFrom]
  | added => simp [Segment.consLine, Segment.flatten_blocks_consEdit, Line.edit?, editsFrom]

lemma mem_edits {lines : List Line} {edit : Edit} :
    edit ∈ edits lines ↔ ∃ block ∈ blocks lines, edit ∈ block :=
  List.mem_flatten

lemma mem_blocks {lines : List Line} {block : Block} :
    block ∈ blocks lines ↔ .block block ∈ segments lines := by
  rw [blocks, List.mem_filterMap]
  constructor
  · rintro ⟨segment, hs, hsegment⟩
    cases segment with
    | context => cases hsegment
    | block edits => exact Option.some.inj hsegment ▸ hs
  · intro hs
    exact ⟨_, hs, rfl⟩

lemma map_toLine_editsFrom (index : Nat) (lines : List Line) :
    (editsFrom index lines).map Edit.toLine = lines.filter (!·.isContext) := by
  induction lines generalizing index with
  | nil => rfl
  | cons line rest ih =>
    rw [editsFrom_cons, List.map_append, ih]
    cases line <;> simp [Line.edit?, Line.isContext, Edit.toLine]

/-- The edits are the changed lines, in order. -/
lemma map_toLine_edits (lines : List Line) :
    (edits lines).map Edit.toLine = lines.filter (!·.isContext) :=
  map_toLine_editsFrom 0 lines

lemma toLine_mem {lines : List Line} {edit : Edit} (h : edit ∈ edits lines) :
    edit.toLine ∈ lines := by
  have hmem : edit.toLine ∈ (edits lines).map Edit.toLine := List.mem_map_of_mem h
  rw [map_toLine_edits] at hmem
  exact (List.mem_filter.1 hmem).1

/-! ## Places ascend -/

/-- Of two members of a list one stands before the other, or they are the same. -/
lemma eq_of_pairwise {α : Type} {R : α → α → Prop} {items : List α} (h : items.Pairwise R)
    {first second : α} (hf : first ∈ items) (hs : second ∈ items) (hfs : ¬ R first second)
    (hsf : ¬ R second first) : first = second := by
  induction h with
  | nil => cases hf
  | cons hall _ ih =>
    rcases List.mem_cons.1 hf with rfl | hfrest
    · rcases List.mem_cons.1 hs with rfl | hsrest
      · rfl
      · exact absurd (hall second hsrest) hfs
    · rcases List.mem_cons.1 hs with rfl | hsrest
      · exact absurd (hall first hfrest) hsf
      · exact ih hfrest hsrest

lemma index_of_mem_edit? {index : Nat} {line : Line} {edit : Edit}
    (h : edit ∈ (line.edit? index).toList) : edit.index = index := by
  cases line <;> simp [Line.edit?] at h <;> subst h <;> rfl

lemma le_index_of_mem {index : Nat} {lines : List Line} {edit : Edit}
    (h : edit ∈ editsFrom index lines) : index ≤ edit.index := by
  induction lines generalizing index with
  | nil => cases h
  | cons line rest ih =>
    rw [editsFrom_cons] at h
    rcases List.mem_append.1 h with h | h
    · have hindex := index_of_mem_edit? h
      omega
    · have hlater := ih h
      omega

lemma pairwise_index_editsFrom (index : Nat) (lines : List Line) :
    (editsFrom index lines).Pairwise (·.index < ·.index) := by
  induction lines generalizing index with
  | nil => exact .nil
  | cons line rest ih =>
    rw [editsFrom_cons]
    refine List.pairwise_append.2 ⟨?_, ih (index + 1), ?_⟩
    · cases line <;> simp [Line.edit?]
    · intro first hf second hs
      have hfirst := index_of_mem_edit? hf
      have hsecond := le_index_of_mem hs
      omega

/-- No two blocks have an edit in common. -/
lemma block_eq_of_mem {lines : List Line} {first second : Block} (hf : first ∈ blocks lines)
    (hs : second ∈ blocks lines) {edit : Edit} (h1 : edit ∈ first) (h2 : edit ∈ second) :
    first = second := by
  have hpair := (List.pairwise_flatten.1 (pairwise_index_editsFrom 0 lines)).2
  apply eq_of_pairwise hpair hf hs
  · intro hlt
    exact absurd (hlt edit h1 edit h2) (Nat.lt_irrefl _)
  · intro hlt
    exact absurd (hlt edit h2 edit h1) (Nat.lt_irrefl _)

lemma nodup_block {lines : List Line} {block : Block} (h : block ∈ blocks lines) :
    block.Nodup := by
  have hpair := (List.pairwise_flatten.1 (pairwise_index_editsFrom 0 lines)).1 block h
  apply hpair.imp
  intro first second hlt heq
  subst heq
  exact Nat.lt_irrefl _ hlt

/-! ## Numbers in one version -/

/-- What belongs to one version. -/
def Sides.at {α : Type} (s : Sides α) : Side → α
  | .old => s.old
  | .new => s.new

lemma Sides.at_add (s t : Sides Int) (side : Side) : (s + t).at side = s.at side + t.at side := by
  cases side <;> rfl

namespace Line

/-- Whether a version holds a line. -/
def standsIn : Side → Line → Bool
  | .old => isOld
  | .new => isNew

/-- The number of a line in a version, if the version holds it. -/
def numberIn : Side → Line → Option Int
  | .old, context _ old _ => some old
  | .old, removed _ old => some old
  | .old, added .. => none
  | .new, context _ _ new => some new
  | .new, removed .. => none
  | .new, added _ new => some new

lemma at_tally (lines : List Line) (side : Side) :
    (tally lines).at side = lines.countP (standsIn side) := by
  cases side <;> rfl

lemma numberIn_withNumbers {numbers : Sides Int} {line : Line} {side : Side} {n : Int}
    (h : n ∈ (line.withNumbers numbers).numberIn side) : n = numbers.at side := by
  cases line <;> cases side <;> simp_all [withNumbers, numberIn, Sides.at]

end Line

/-- A line of a numbered hunk has the number that the counter of its version has reached. -/
lemma Numbered.eq_of_mem_numberIn {next : Sides Int} {lines : List Line} (h : Numbered next lines)
    {i : Nat} {line : Line} (hl : lines[i]? = some line) {side : Side} {n : Int}
    (hn : n ∈ line.numberIn side) :
    n = next.at side + (lines.take i).countP (Line.standsIn side) := by
  induction lines generalizing next i with
  | nil => cases hl
  | cons first rest ih =>
    obtain ⟨hfirst, hrest⟩ := numbered_cons.1 h
    cases i with
    | zero =>
      obtain rfl : first = line := by simpa using hl
      rw [← hfirst] at hn
      simpa using Line.numberIn_withNumbers hn
    | succ i =>
      have hlater := ih hrest (by simpa using hl)
      have htake : (first :: rest).take (i + 1) = [first] ++ rest.take i := rfl
      rw [hlater, Sides.at_add, Line.at_tally, htake, List.countP_append]
      omega

/-! ## Numbers ascend -/

lemma at_le_of_mem_numberIn {next : Sides Int} {lines : List Line} (hn : Numbered next lines)
    {line : Line} (hl : line ∈ lines) {side : Side} {n : Int} (h : n ∈ line.numberIn side) :
    next.at side ≤ n := by
  obtain ⟨i, hi⟩ := List.mem_iff_getElem?.1 hl
  have hnumber := hn.eq_of_mem_numberIn hi h
  omega

/-- A numbered line of a version moves the counter of that version on by one. -/
lemma number_of_mem_numberIn {next : Sides Int} {line : Line}
    (hline : line.withNumbers next = line) {side : Side} {n : Int} (h : n ∈ line.numberIn side) :
    n + 1 = (next + Line.tally [line]).at side := by
  rw [← hline] at h
  rw [Line.numberIn_withNumbers h, Sides.at_add, Line.at_tally]
  cases line <;> cases side <;>
    simp [Line.withNumbers, Line.numberIn, Line.standsIn, Line.isOld, Line.isNew] at h ⊢

/-- The numbers of each version ascend. -/
lemma Numbered.pairwise_numberIn {next : Sides Int} {lines : List Line}
    (hn : Numbered next lines) :
    lines.Pairwise fun line later =>
      ∀ side, ∀ n ∈ line.numberIn side, ∀ m ∈ later.numberIn side, n < m := by
  induction lines generalizing next with
  | nil => exact .nil
  | cons line rest ih =>
    obtain ⟨hline, hrest⟩ := numbered_cons.1 hn
    refine .cons ?_ (ih hrest)
    intro later hl side n hfirst m hlater
    have hnext := number_of_mem_numberIn hline hfirst
    have hbound := at_le_of_mem_numberIn hrest hl hlater
    omega

/-- In a numbered hunk a line is determined by its number in a version. -/
lemma Numbered.line_eq_of_numberIn {next : Sides Int} {lines : List Line}
    (hn : Numbered next lines) {first second : Line} (hf : first ∈ lines) (hs : second ∈ lines)
    {side : Side} {n : Int} (h1 : n ∈ first.numberIn side) (h2 : n ∈ second.numberIn side) :
    first = second := by
  apply eq_of_pairwise hn.pairwise_numberIn hf hs
  · exact fun hlt => absurd (hlt side n h1 n h2) (Int.lt_irrefl n)
  · exact fun hlt => absurd (hlt side n h2 n h1) (Int.lt_irrefl n)

lemma Edit.mem_numberIn_toLine {edit : Edit} {side : Side} {n : Int} :
    n ∈ edit.toLine.numberIn side ↔ edit.side = side ∧ edit.number = n := by
  rw [toLine]
  cases edit.side <;> cases side <;> simp [Line.numberIn]

lemma pairwise_number_editsFrom (index : Nat) {next : Sides Int} {lines : List Line}
    (hn : Numbered next lines) :
    (editsFrom index lines).Pairwise fun e e' => e.side = e'.side → e.number < e'.number := by
  have hlines := hn.pairwise_numberIn.sublist (List.filter_sublist (p := (!·.isContext)))
  rw [← map_toLine_editsFrom index, List.pairwise_map] at hlines
  apply hlines.imp
  intro e e' hlt hside
  exact hlt e.side _ (Edit.mem_numberIn_toLine.2 ⟨rfl, rfl⟩) _
    (Edit.mem_numberIn_toLine.2 ⟨hside.symm, rfl⟩)

/-- In a numbered hunk an edit is determined by its version and its number. -/
lemma edit_eq_of_number {next : Sides Int} {lines : List Line} (hn : Numbered next lines)
    {first second : Edit} (hf : first ∈ edits lines) (hs : second ∈ edits lines)
    (hside : first.side = second.side) (hnumber : first.number = second.number) :
    first = second := by
  apply eq_of_pairwise (pairwise_number_editsFrom 0 hn) hf hs
  · intro hlt
    have hnumbers := hlt hside
    omega
  · intro hlt
    have hnumbers := hlt hside.symm
    omega

/-! ## Pairs -/

lemma mem_removed {block : Block} {edit : Edit} :
    edit ∈ Block.removed block ↔ edit ∈ block ∧ edit.side = .old := by
  simp [Block.removed]

lemma mem_added {block : Block} {edit : Edit} :
    edit ∈ Block.added block ↔ edit ∈ block ∧ edit.side = .new := by
  simp [Block.added]

lemma Block.isTwoSided_iff {block : Block} :
    block.isTwoSided = true ↔ block.removed ≠ [] ∧ block.added ≠ [] := by
  simp [isTwoSided]

/-- Pairs by rank are made of the lines at the same place. -/
lemma ChangePair.mem_zipWith {removed added : List Edit} {pair : ChangePair} :
    pair ∈ List.zipWith ChangePair.mk removed added ↔
      ∃ i : Nat, removed[i]? = some pair.removed ∧ added[i]? = some pair.added := by
  rw [List.mem_iff_getElem?]
  refine exists_congr fun i => ?_
  rw [List.getElem?_zipWith_eq_some]
  constructor
  · rintro ⟨old, new, ho, hn, rfl⟩
    exact ⟨ho, hn⟩
  · rintro ⟨ho, hn⟩
    exact ⟨_, _, ho, hn, rfl⟩

lemma mem_pairs {block : Block} {pair : ChangePair} (h : pair ∈ Block.pairs block) :
    ∃ i : Nat, (Block.removed block)[i]? = some pair.removed ∧
      (Block.added block)[i]? = some pair.added :=
  ChangePair.mem_zipWith.1 h

lemma mem_of_mem_pairs {block : Block} {pair : ChangePair} (h : pair ∈ Block.pairs block) :
    pair.removed ∈ Block.removed block ∧ pair.added ∈ Block.added block := by
  obtain ⟨i, hr, ha⟩ := mem_pairs h
  exact ⟨List.mem_of_getElem? hr, List.mem_of_getElem? ha⟩

/-- The pairs of a block take its removed lines in order, until one of the sides is used up. -/
lemma map_removed_zipWith (removed added : List Edit) :
    (List.zipWith ChangePair.mk removed added).map ChangePair.removed =
      removed.take added.length := by
  induction removed generalizing added with
  | nil => simp
  | cons edit rest ih =>
    cases added with
    | nil => rfl
    | cons other more => exact congrArg (edit :: ·) (ih more)

lemma map_added_zipWith (removed added : List Edit) :
    (List.zipWith ChangePair.mk removed added).map ChangePair.added =
      added.take removed.length := by
  induction removed generalizing added with
  | nil => rfl
  | cons edit rest ih =>
    cases added with
    | nil => rfl
    | cons other more => exact congrArg (other :: ·) (ih more)

/-- The two lines of a pair stand in one block. -/
lemma mem_changePairs {lines : List Line} {pair : ChangePair} (h : pair ∈ changePairs lines) :
    ∃ block ∈ blocks lines, pair ∈ block.pairs ∧
      pair.removed ∈ Block.removed block ∧ pair.added ∈ Block.added block := by
  obtain ⟨block, hb, hp⟩ := List.mem_flatMap.1 h
  exact ⟨block, hb, hp, mem_of_mem_pairs hp⟩

/-- Whether a pair is made of a removed and an added line of a hunk with the given lines. -/
structure ChangePair.Within (lines : List Line) (pair : ChangePair) : Prop where
  removed_mem : pair.removed ∈ edits lines
  removed_side : pair.removed.side = .old
  added_mem : pair.added ∈ edits lines
  added_side : pair.added.side = .new

lemma ChangePair.within_of_mem {lines : List Line} {block : Block} {pair : ChangePair}
    (hb : block ∈ blocks lines) (hr : pair.removed ∈ Block.removed block)
    (ha : pair.added ∈ Block.added block) : pair.Within lines where
  removed_mem := mem_edits.2 ⟨block, hb, (mem_removed.1 hr).1⟩
  removed_side := (mem_removed.1 hr).2
  added_mem := mem_edits.2 ⟨block, hb, (mem_added.1 ha).1⟩
  added_side := (mem_added.1 ha).2

lemma ChangePair.within_of_mem_changePairs {lines : List Line} {pair : ChangePair}
    (h : pair ∈ changePairs lines) : pair.Within lines := by
  obtain ⟨block, hb, -, hr, ha⟩ := mem_changePairs h
  exact within_of_mem hb hr ha

lemma ChangePair.Within.added_eq {next : Sides Int} {lines : List Line}
    {first second : ChangePair} (hn : Numbered next lines)
    (hf : first.Within lines) (hs : second.Within lines)
    (h : first.added.number = second.added.number) : first.added = second.added :=
  edit_eq_of_number hn hf.added_mem hs.added_mem (by rw [hf.added_side, hs.added_side]) h

/-- No added line is in two pairs. -/
lemma pair_eq_of_added {lines : List Line} {first second : ChangePair}
    (hf : first ∈ changePairs lines) (hs : second ∈ changePairs lines)
    (h : first.added = second.added) : first = second := by
  obtain ⟨block, hb, hp, -, ha⟩ := mem_changePairs hf
  obtain ⟨block', hb', hp', -, ha'⟩ := mem_changePairs hs
  obtain rfl := block_eq_of_mem hb hb' (mem_added.1 ha).1 (h ▸ (mem_added.1 ha').1)
  have hnodup : (block.pairs.map ChangePair.added).Nodup := by
    rw [Block.pairs, map_added_zipWith]
    exact ((nodup_block hb).filter _).sublist (List.take_sublist _ _)
  apply eq_of_pairwise (List.pairwise_map.1 hnodup) hp hp'
  · exact fun hne => hne h
  · exact fun hne => hne h.symm

end DiffSieve
