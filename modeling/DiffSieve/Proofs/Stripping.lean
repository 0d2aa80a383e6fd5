import DiffSieve.Proofs.Survivors
import Mathlib.Data.List.Flatten

/-!
# What stripping keeps, whatever is flagged

Nothing is assumed here of the flags that a hunk is stripped by: they may name numbers that no line
has, speak of part of a block, or give a line a partner it does not stand with.  Even so stripping
never invents or moves a line of the new version.  It only loses those added lines that are flagged
as single lines while their partner is not (`Flags.dropped`), and it keeps every context line.

Both are shown segment by segment, since stripping works on one segment at a time.  The places of
the dropped lines are places in the whole hunk, and `withoutFrom_eq_flatMap` takes them apart by the
segments: a place belongs to one edit, and an edit to one block.
-/

namespace DiffSieve

/-! ## The new version of a hunk -/

/-- The contents and numbers of the lines of the new version, in order. -/
def newSide (lines : List Line) : List (Text × Int) :=
  lines.filterMap fun line => (line.numberIn .new).map (line.content, ·)

/-- What an added line is in the new version. -/
def Edit.entry (edit : Edit) : Text × Int :=
  (edit.content, edit.number)

lemma newSide_append (first second : List Line) :
    newSide (first ++ second) = newSide first ++ newSide second :=
  List.filterMap_append

lemma newSide_flatMap {α : Type} (items : List α) (f : α → List Line) :
    newSide (items.flatMap f) = items.flatMap fun item => newSide (f item) :=
  List.filterMap_flatMap

lemma newSide_map_toLine (edits : List Edit) :
    newSide (edits.map Edit.toLine) = (Block.added edits).map Edit.entry := by
  induction edits with
  | nil => rfl
  | cons edit rest ih =>
    have hstep : newSide (Edit.toLine edit :: rest.map Edit.toLine) =
        newSide [edit.toLine] ++ newSide (rest.map Edit.toLine) := newSide_append [_] _
    rw [List.map_cons, hstep, ih]
    cases hside : edit.side with
    | old => simp [newSide, Edit.toLine, hside, Line.numberIn, Block.added]
    | new =>
      simp [newSide, Edit.toLine, hside, Line.numberIn, Line.content, Edit.entry, Block.added]

lemma newSide_asContext (last : Int) (numbers : List Int) (added : List Edit) :
    newSide (asContext last numbers added) = added.map Edit.entry := by
  induction added generalizing last numbers with
  | nil => cases numbers <;> rfl
  | cons edit rest ih =>
    cases numbers with
    | nil => exact congrArg (edit.entry :: ·) (ih last [])
    | cons number more => exact congrArg (edit.entry :: ·) (ih number more)

/-- A block that becomes context keeps its added lines. -/
lemma newSide_collapsed {block : Block} (h : block.isTwoSided = true) :
    newSide block.collapsed = block.added.map Edit.entry := by
  unfold Block.collapsed
  split
  · next hnil =>
    have hremoved : block.removed = [] := List.map_eq_nil_iff.1 hnil
    simp [Block.isTwoSided, hremoved] at h
  · exact newSide_asContext _ _ _

/-- The numbers of the new version of a numbered hunk ascend. -/
lemma pairwise_newSide {next : Sides Int} {lines : List Line} (h : Numbered next lines) :
    (newSide lines).Pairwise (·.2 < ·.2) := by
  rw [newSide, List.pairwise_filterMap]
  apply h.pairwise_numberIn.imp
  intro line later hlt entry he entry' he'
  obtain ⟨n, hn, rfl⟩ := Option.map_eq_some_iff.1 he
  obtain ⟨m, hm, rfl⟩ := Option.map_eq_some_iff.1 he'
  exact hlt .new n hn m hm

/-! ## Lines at given places left out -/

/-- The lines whose places, counted from `index`, are not among the given ones. -/
def withoutFrom (index : Nat) (places : List Nat) (lines : List Line) : List Line :=
  ((lines.zipIdx index).filter fun line => !places.contains line.2).map Prod.fst

/-- The lines whose places are not among the given ones. -/
def without (places : List Nat) (lines : List Line) : List Line :=
  withoutFrom 0 places lines

lemma withoutFrom_cons (index : Nat) (places : List Nat) (line : Line) (rest : List Line) :
    withoutFrom index places (line :: rest) =
      (if places.contains index then [] else [line]) ++ withoutFrom (index + 1) places rest := by
  rw [withoutFrom, List.zipIdx_cons, List.filter_cons]
  cases places.contains index <;> rfl

lemma without_nil (lines : List Line) : without [] lines = lines := by
  simp [without, withoutFrom]

lemma withoutFrom_sublist (index : Nat) (places : List Nat) (lines : List Line) :
    (withoutFrom index places lines).Sublist lines := by
  induction lines generalizing index with
  | nil => exact List.Sublist.refl _
  | cons line rest ih =>
    rw [withoutFrom_cons]
    cases places.contains index
    · exact (ih (index + 1)).cons_cons line
    · exact (ih (index + 1)).cons line

/-- Whatever lines are left out, the numbers of the new version ascend. -/
lemma pairwise_newSide_without {next : Sides Int} {lines : List Line} (h : Numbered next lines)
    (places : List Nat) : (newSide (without places lines)).Pairwise (·.2 < ·.2) :=
  (pairwise_newSide h).sublist ((withoutFrom_sublist 0 places lines).filterMap _)

/-- The lines of a segment without the edits at the given places. -/
def Segment.without (places : List Nat) : Segment → List Line
  | context content old new => [.context content old new]
  | block edits => (edits.filter fun edit => !places.contains edit.index).map Edit.toLine

lemma Segment.flatMap_without_consEdit (places : List Nat) (edit : Edit)
    (segments : List Segment) :
    (consEdit edit segments).flatMap (Segment.without places) =
      (if places.contains edit.index then [] else [edit.toLine]) ++
        segments.flatMap (Segment.without places) := by
  unfold consEdit
  split
  · simp only [List.flatMap_cons, Segment.without, List.filter_cons]
    cases places.contains edit.index <;> rfl
  · simp only [List.flatMap_cons, Segment.without, List.filter_cons]
    cases places.contains edit.index <;> rfl

/-- Lines are left out segment by segment, if none of them is a context line. -/
lemma withoutFrom_eq_flatMap {places : List Nat} {lines : List Line} {index : Nat}
    (h : ∀ (i : Nat) (line : Line), lines[i]? = some line → line.isContext = true →
      places.contains (index + i) = false) :
    withoutFrom index places lines =
      (segmentsFrom index lines).flatMap (Segment.without places) := by
  induction lines generalizing index with
  | nil => rfl
  | cons line rest ih =>
    have hstep : segmentsFrom index (line :: rest) =
        Segment.consLine (line, index) (segmentsFrom (index + 1) rest) := rfl
    have hplaces : ∀ (i : Nat) (line : Line), rest[i]? = some line → line.isContext = true →
        places.contains (index + 1 + i) = false := by
      intro i line hl hc
      have hplace := h (i + 1) line (by simpa using hl) hc
      rwa [show index + (i + 1) = index + 1 + i by omega] at hplace
    rw [withoutFrom_cons, ih hplaces, hstep]
    cases line with
    | context content old new =>
      have hplace := h 0 _ rfl rfl
      rw [Nat.add_zero] at hplace
      rw [hplace]
      rfl
    | removed content old =>
      simp only [Segment.consLine, Segment.flatMap_without_consEdit, Edit.toLine]
    | added content new =>
      simp only [Segment.consLine, Segment.flatMap_without_consEdit, Edit.toLine]

lemma getElem?_of_mem_editsFrom {index : Nat} {lines : List Line} {edit : Edit}
    (h : edit ∈ editsFrom index lines) :
    ∃ i, edit.index = index + i ∧ lines[i]? = some edit.toLine := by
  induction lines generalizing index with
  | nil => cases h
  | cons line rest ih =>
    rw [editsFrom_cons] at h
    rcases List.mem_append.1 h with h | h
    · refine ⟨0, index_of_mem_edit? h, ?_⟩
      cases line <;> simp [Line.edit?] at h <;> subst h <;> rfl
    · obtain ⟨i, hindex, hline⟩ := ih h
      exact ⟨i + 1, by omega, by simpa using hline⟩

/-- An edit of a hunk is known by its place. -/
lemma edit_eq_of_index {lines : List Line} {first second : Edit} (hf : first ∈ edits lines)
    (hs : second ∈ edits lines) (h : first.index = second.index) : first = second := by
  apply eq_of_pairwise (pairwise_index_editsFrom 0 lines) hf hs
  · omega
  · omega

/-! ## Lists put together piece by piece -/

/-- If no piece grows and the whole stays the same, then every piece stays the same. -/
lemma eq_of_flatMap_eq_flatMap {α β : Type} {items : List α} {f g : α → List β}
    (h : ∀ item ∈ items, (f item).Sublist (g item)) (heq : items.flatMap f = items.flatMap g) :
    ∀ item ∈ items, f item = g item := by
  induction items with
  | nil =>
    intro item hitem
    cases hitem
  | cons item rest ih =>
    have hhead := h item List.mem_cons_self
    have hrest : ∀ other ∈ rest, (f other).Sublist (g other) :=
      fun other ho => h other (List.mem_cons_of_mem _ ho)
    rw [List.flatMap_cons, List.flatMap_cons] at heq
    have hlengths := congrArg List.length heq
    rw [List.length_append, List.length_append] at hlengths
    have hshorter := hhead.length_le
    have hrestShorter := (List.Sublist.flatMap_right rest hrest).length_le
    have hsame : f item = g item := hhead.eq_of_length (by omega)
    rw [hsame] at heq
    intro other hother
    rcases List.mem_cons.1 hother with rfl | hother
    · exact hsame
    · exact ih hrest (List.append_cancel_left heq) other hother

/-! ## What stripping does to the new version -/

namespace Flags

/-- Whether an edit is an added line that goes without a trace where its block does not become
context: it is flagged, and its partner is missing or not flagged. -/
def drops (flags : Flags) (edit : Edit) : Bool :=
  edit.side = .new && holds flags.lines edit &&
    !(flags.partner? edit.number).any (· ∈ flags.lines.old)

/-- The added lines of a hunk that stripping takes out of the new version. -/
def dropped (flags : Flags) (lines : List Line) : List Edit :=
  ((DiffSieve.blocks lines).filter (!flags.collapses ·)).flatten.filter flags.drops

variable {flags : Flags} {lines : List Line} {block : Block} {edit : Edit}

lemma mem_dropped :
    edit ∈ flags.dropped lines ↔
      ∃ block ∈ DiffSieve.blocks lines, flags.collapses block = false ∧ edit ∈ block ∧
        flags.drops edit = true := by
  simp only [dropped, List.mem_filter, List.mem_flatten, Bool.not_eq_true']
  constructor
  · rintro ⟨⟨block, ⟨hb, hc⟩, he⟩, hd⟩
    exact ⟨block, hb, hc, he, hd⟩
  · rintro ⟨block, hb, hc, he, hd⟩
    exact ⟨⟨block, ⟨hb, hc⟩, he⟩, hd⟩

lemma mem_edits_of_mem_dropped (h : edit ∈ flags.dropped lines) : edit ∈ edits lines := by
  obtain ⟨block, hb, -, he, -⟩ := mem_dropped.1 h
  exact mem_edits.2 ⟨block, hb, he⟩

lemma getElem?_of_mem_dropped (h : edit ∈ flags.dropped lines) :
    lines[edit.index]? = some (.added edit.content edit.number) := by
  obtain ⟨i, hindex, hline⟩ := getElem?_of_mem_editsFrom (mem_edits_of_mem_dropped h)
  obtain ⟨-, -, -, -, hdrops⟩ := mem_dropped.1 h
  have hside : edit.side = .new := by
    simp only [drops, Bool.and_eq_true, decide_eq_true_eq] at hdrops
    exact hdrops.1.1
  rw [Edit.toLine, hside] at hline
  rw [hindex, Nat.zero_add, hline]

lemma nodup_index_dropped (flags : Flags) (lines : List Line) :
    ((flags.dropped lines).map Edit.index).Nodup := by
  have hsub : (flags.dropped lines).Sublist (edits lines) :=
    List.filter_sublist.trans List.filter_sublist.flatten
  have hascend := (pairwise_index_editsFrom 0 lines).sublist hsub
  exact (List.pairwise_map.2 hascend).imp Nat.ne_of_lt

/-- The place of an edit is the place of a dropped line exactly if the edit is dropped. -/
lemma contains_index_dropped (hb : block ∈ DiffSieve.blocks lines) (he : edit ∈ block) :
    ((flags.dropped lines).map Edit.index).contains edit.index =
      (!flags.collapses block && flags.drops edit) := by
  have hmem : edit ∈ edits lines := mem_edits.2 ⟨block, hb, he⟩
  rw [Bool.eq_iff_iff, List.contains_iff_mem, Bool.and_eq_true, Bool.not_eq_true']
  constructor
  · intro hplace
    obtain ⟨other, hother, hindex⟩ := List.mem_map.1 hplace
    obtain rfl := edit_eq_of_index (mem_edits_of_mem_dropped hother) hmem hindex
    obtain ⟨block', hb', hc, he', hd⟩ := mem_dropped.1 hother
    obtain rfl := block_eq_of_mem hb hb' he he'
    exact ⟨hc, hd⟩
  · rintro ⟨hc, hd⟩
    exact List.mem_map_of_mem (mem_dropped.2 ⟨block, hb, hc, he, hd⟩)

lemma newSide_stripEdit (flags : Flags) (edit : Edit) :
    newSide (flags.stripEdit edit) = newSide (if flags.drops edit then [] else [edit.toLine]) := by
  cases hside : edit.side with
  | old =>
    have hnone : ∀ shown : List Line, shown = [] ∨ shown = [edit.toLine] → newSide shown = [] := by
      rintro shown (rfl | rfl)
      · rfl
      · simp [newSide, Edit.toLine, hside, Line.numberIn]
    rw [hnone (flags.stripEdit edit), hnone (if flags.drops edit then [] else [edit.toLine])]
    · cases flags.drops edit <;> simp
    · unfold stripEdit
      cases holds flags.lines edit <;> simp [hside]
  | new =>
    have hentry : newSide [edit.toLine] = [edit.entry] := by
      simp [newSide, Edit.toLine, hside, Line.numberIn, Line.content, Edit.entry]
    unfold stripEdit drops
    cases holds flags.lines edit with
    | false => simp [hside]
    | true =>
      cases flags.partner? edit.number with
      | none => simp [hside]
      | some old =>
        have hcontext : newSide [.context edit.content old edit.number] = [edit.entry] := rfl
        by_cases hold : old ∈ flags.lines.old
        · simp [hside, hold, hentry, hcontext]
        · simp [hside, hold]

lemma map_toLine_filter (flags : Flags) (edits : List Edit) :
    (edits.filter (!flags.drops ·)).map Edit.toLine =
      edits.flatMap fun edit => if flags.drops edit then [] else [edit.toLine] := by
  induction edits with
  | nil => rfl
  | cons edit rest ih =>
    rw [List.filter_cons, List.flatMap_cons, ← ih]
    cases flags.drops edit <;> rfl

lemma newSide_stripBlock (hb : block ∈ DiffSieve.blocks lines) :
    newSide (flags.stripBlock block) =
      newSide (Segment.without ((flags.dropped lines).map Edit.index) (.block block)) := by
  rw [stripBlock, Segment.without]
  split
  · next hc =>
    have hall : block.filter (fun edit =>
        !((flags.dropped lines).map Edit.index).contains edit.index) = block := by
      rw [List.filter_eq_self]
      intro edit he
      rw [contains_index_dropped hb he, hc]
      rfl
    have htwo : block.isTwoSided = true := by
      rw [collapses, Bool.and_eq_true] at hc
      exact hc.2
    rw [hall, newSide_collapsed htwo, newSide_map_toLine]
  · next hc =>
    have hkept : block.filter (fun edit =>
        !((flags.dropped lines).map Edit.index).contains edit.index) =
          block.filter (!flags.drops ·) := by
      apply List.filter_congr
      intro edit he
      rw [contains_index_dropped hb he, show flags.collapses block = false by simpa using hc]
      rfl
    rw [hkept, map_toLine_filter, newSide_flatMap, newSide_flatMap]
    exact List.flatMap_congr fun edit _ => newSide_stripEdit flags edit

/-- The new version of a stripped hunk is that of the hunk without the dropped lines. -/
lemma newSide_stripLines (flags : Flags) (lines : List Line) :
    newSide (flags.stripLines lines) =
      newSide (without ((flags.dropped lines).map Edit.index) lines) := by
  have hcontext : ∀ (i : Nat) (line : Line), lines[i]? = some line → line.isContext = true →
      ((flags.dropped lines).map Edit.index).contains (0 + i) = false := by
    intro i line hl hc
    by_contra hplace
    rw [Bool.not_eq_false, List.contains_iff_mem] at hplace
    obtain ⟨edit, he, hindex⟩ := List.mem_map.1 hplace
    obtain ⟨j, hj, hline⟩ := getElem?_of_mem_editsFrom (mem_edits_of_mem_dropped he)
    obtain rfl : i = j := by omega
    rw [hl] at hline
    rw [Option.some.inj hline, Edit.isContext_toLine] at hc
    contradiction
  rw [without, withoutFrom_eq_flatMap hcontext, stripLines, segments, newSide_flatMap,
    newSide_flatMap]
  apply List.flatMap_congr
  intro segment hs
  cases segment with
  | context content old new => rfl
  | block edits => exact newSide_stripBlock (mem_blocks.2 hs)

/-! ## Context lines stay -/

/-- No context line is lost, changed or moved. -/
lemma sublist_stripLines (flags : Flags) (lines : List Line) :
    (lines.filter Line.isContext).Sublist (flags.stripLines lines) := by
  have hlines : lines.filter Line.isContext =
      (segments lines).flatMap fun segment => segment.toLines.filter Line.isContext := by
    rw [← List.filter_flatMap, segments, Segment.flatMap_toLines_segmentsFrom]
  rw [hlines]
  apply List.Sublist.flatMap_right
  intro segment _
  cases segment with
  | context content old new => exact List.Sublist.refl _
  | block edits =>
    have hnone : (edits.map Edit.toLine).filter Line.isContext = [] := by simp
    rw [Segment.toLines, hnone]
    exact List.nil_sublist _

/-! ## Lines are not multiplied -/

lemma length_asContext (last : Int) (numbers : List Int) (added : List Edit) :
    (asContext last numbers added).length = added.length := by
  induction added generalizing last numbers with
  | nil => cases numbers <;> rfl
  | cons edit rest ih => cases numbers <;> simp [asContext, ih]

lemma length_stripEdit_le (flags : Flags) (edit : Edit) : (flags.stripEdit edit).length ≤ 1 := by
  unfold stripEdit
  repeat' split
  all_goals simp

lemma length_flatMap_le_flatMap {α β : Type} {items : List α} {f g : α → List β}
    (h : ∀ item, (f item).length ≤ (g item).length) :
    (items.flatMap f).length ≤ (items.flatMap g).length := by
  induction items with
  | nil => exact Nat.le_refl 0
  | cons item rest ih =>
    simp only [List.flatMap_cons, List.length_append]
    exact Nat.add_le_add (h item) ih

lemma length_stripSegment_le (flags : Flags) (segment : Segment) :
    (flags.stripSegment segment).length ≤ segment.toLines.length := by
  cases segment with
  | context content old new => exact Nat.le_refl 1
  | block edits =>
    rw [stripSegment, Segment.toLines]
    unfold stripBlock
    split
    · unfold Block.collapsed
      split
      · exact Nat.zero_le _
      · rw [length_asContext, List.length_map]
        exact List.length_filter_le _ _
    · rw [List.map_eq_flatMap]
      exact length_flatMap_le_flatMap (flags.length_stripEdit_le ·)

/-- There are no more lines than before. -/
lemma length_stripLines_le (flags : Flags) (lines : List Line) :
    (flags.stripLines lines).length ≤ lines.length := by
  calc (flags.stripLines lines).length
      ≤ ((segments lines).flatMap Segment.toLines).length :=
        length_flatMap_le_flatMap (flags.length_stripSegment_le ·)
    _ = lines.length := by rw [segments, Segment.flatMap_toLines_segmentsFrom]

/-! ## Whether anything is stripped -/

lemma changesOf_map_toLine (edits : List Edit) :
    changesOf (edits.map Edit.toLine) = edits.map Edit.toLine := by
  simp [changesOf]

lemma changesOf_stripBlock_eq (flags : Flags) (block : Block) :
    changesOf (flags.stripBlock block) =
      if flags.collapses block then []
      else (block.filter fun edit => !holds flags.lines edit).map Edit.toLine := by
  rw [stripBlock]
  split
  · exact changesOf_collapsed block
  · exact changesOf_flatMap_stripEdit flags block

/-- An untouched block stays as it is. -/
lemma stripBlock_of_not_touches (h : flags.touches block = false) :
    flags.stripBlock block = block.map Edit.toLine := by
  rw [touches, Bool.or_eq_false_iff] at h
  rw [stripBlock, h.1, if_neg Bool.false_ne_true, List.map_eq_flatMap]
  apply List.flatMap_congr
  intro edit he
  have hholds := List.any_eq_false.1 h.2 edit he
  rw [stripEdit, if_neg hholds]

/-- A touched block loses a changed line. -/
lemma changesOf_stripBlock_ne (h : flags.touches block = true) :
    changesOf (flags.stripBlock block) ≠ block.map Edit.toLine := by
  rw [changesOf_stripBlock_eq]
  intro heq
  rw [touches, Bool.or_eq_true] at h
  by_cases hc : flags.collapses block = true
  · rw [if_pos hc] at heq
    have hnil : block = [] := List.map_eq_nil_iff.1 heq.symm
    rw [collapses, hnil] at hc
    contradiction
  · rw [if_neg hc] at heq
    obtain ⟨edit, he, hholds⟩ := List.any_eq_true.1 (h.resolve_left hc)
    have hlength := congrArg List.length heq
    rw [List.length_map, List.length_map] at hlength
    have hall := List.length_filter_eq_length_iff.1 hlength edit he
    rw [hholds] at hall
    contradiction

/-- Of a segment some of the changed lines are left. -/
lemma changesOf_stripSegment_sublist (flags : Flags) (segment : Segment) :
    (changesOf (flags.stripSegment segment)).Sublist (changesOf segment.toLines) := by
  cases segment with
  | context => exact List.Sublist.refl _
  | block edits =>
    show (changesOf (flags.stripBlock edits)).Sublist (changesOf (edits.map Edit.toLine))
    rw [changesOf_stripBlock_eq, changesOf_map_toLine]
    split
    · exact List.nil_sublist _
    · exact List.filter_sublist.map _

/-- The lines are left as they are exactly if no block is touched. -/
lemma stripLines_eq_self_iff (flags : Flags) (lines : List Line) :
    flags.stripLines lines = lines ↔
      ∀ block ∈ DiffSieve.blocks lines, flags.touches block = false := by
  have hlines : (segments lines).flatMap Segment.toLines = lines :=
    Segment.flatMap_toLines_segmentsFrom 0 lines
  constructor
  · intro heq block hb
    have hs := mem_blocks.1 hb
    by_contra htouched
    have hchanges :=
      calc (segments lines).flatMap (fun s => changesOf (flags.stripSegment s))
          = changesOf (flags.stripLines lines) := List.filter_flatMap.symm
        _ = changesOf ((segments lines).flatMap Segment.toLines) := by rw [heq, hlines]
        _ = (segments lines).flatMap fun s => changesOf s.toLines := List.filter_flatMap
    have hsame := eq_of_flatMap_eq_flatMap
      (fun s _ => changesOf_stripSegment_sublist flags s) hchanges _ hs
    exact changesOf_stripBlock_ne (by simpa using htouched)
      (hsame.trans (changesOf_map_toLine block))
  · intro huntouched
    calc flags.stripLines lines
        = (segments lines).flatMap Segment.toLines := by
          apply List.flatMap_congr
          intro segment hs
          cases segment with
          | context => rfl
          | block edits =>
            exact stripBlock_of_not_touches (huntouched edits (mem_blocks.2 hs))
      _ = lines := hlines

end Flags

/-! ## Where nothing is found -/

namespace Hunk

lemma touches_flags_nil (hunk : Hunk) (block : Block) :
    (hunk.flags []).touches block = false := by
  have hnone : ∀ edit, Flags.holds (Flags.unite []) edit = false := by
    intro edit
    rw [← Bool.not_eq_true, Flags.holds_unite]
    simp
  have hlines : (hunk.flags []).lines = Flags.unite [] := rfl
  have hblocks : (hunk.flags []).blocks = Flags.unite [] := rfl
  cases block with
  | nil => rfl
  | cons edit rest => simp [Flags.touches, Flags.collapses, hlines, hblocks, hnone]

/-- A hunk in which nothing was found is left as it is. -/
lemma sieve_nil (hunk : Hunk) :
    hunk.sieve [] = ⟨if hunk.hasChanges then some hunk.recounted else none, false⟩ := by
  have hself : (hunk.flags []).stripLines hunk.lines = hunk.lines :=
    (Flags.stripLines_eq_self_iff _ _).2 fun block _ => hunk.touches_flags_nil block
  have hchanged : (blocks hunk.lines).any (hunk.flags []).touches = false :=
    List.any_eq_false.2 fun block _ => by simp [hunk.touches_flags_nil block]
  rw [sieve, strip, hself, hchanged]
  rfl

end Hunk

/-- A file in which nothing is found passes through. -/
lemma File.sieved_eq_passed {config : Config} {file : File}
    (h : ∀ hunk ∈ file.hunks, hunk.findings config file.path = []) :
    file.sieved config = file.passed := by
  have hfound : (file.hunks.map fun hunk => (hunk, hunk.findings config file.path)) =
      file.hunks.map fun hunk => (hunk, []) := by
    apply List.map_congr_left
    intro hunk hh
    rw [h hunk hh]
  have hleft : (file.hunks.map fun hunk => hunk.sieve []).filterMap Stripped.hunk =
      (file.hunks.filter Hunk.hasChanges).map Hunk.recounted := by
    rw [List.filterMap_map, ← List.filterMap_eq_map, List.filterMap_filter]
    apply List.filterMap_congr
    intro hunk _
    simp [Hunk.sieve_nil]
  have hchanged : (file.hunks.map fun hunk => hunk.sieve []).any Stripped.changed = false := by
    simp [Hunk.sieve_nil]
  rw [sieved, passed, hfound]
  simp only [List.map_map, Function.comp_def, hleft, hchanged]
  simp

/-! ## Detections under a name -/

namespace Flags

variable {block : Block} {edit : Edit}

/-- The flags of pairs by rank and of detections under names, in the order given. -/
def ofNamed (pairs : List ChangePair) (detections : List (Text × Detection)) : Flags :=
  .ofDetections pairs (detections.map fun d => (Scope.ofName d.1, d.2))

/-- Whether a detection under a name of the given kind flags a number of a version. -/
def NamedFlag (detections : List (Text × Detection)) (kind : Text → Prop) (side : Side) (n : Int) :
    Prop :=
  ∃ d ∈ detections, kind d.1 ∧ n ∈ d.2.flagged.at side

variable {pairs : List ChangePair} {detections : List (Text × Detection)} {side : Side} {n : Int}

/-- Only the detector of wrapped statements speaks of blocks. -/
lemma ofName_eq_blocks_iff (name : Text) :
    Scope.ofName name = .blocks ↔ name = Category.lineWrap.name := by
  constructor
  · intro h
    unfold Scope.ofName at h
    cases hc : Category.ofName? name with
    | none => simp [hc] at h
    | some category =>
      have hname : category.name = name := by simpa using List.find?_some hc
      cases category <;> simp [hc, Category.scope] at h
      exact hname.symm
  · rintro rfl
    decide

lemma ofName_eq_lines_iff (name : Text) :
    Scope.ofName name = .lines ↔ name ≠ Category.lineWrap.name := by
  rw [← not_iff_not, not_not, ← ofName_eq_blocks_iff]
  cases Scope.ofName name <;> simp

lemma mem_unite_scope (scope : Scope) :
    n ∈ (unite (((detections.map fun d => (Scope.ofName d.1, d.2)).filter (·.1 = scope)).map
        (·.2))).at side ↔
      NamedFlag detections (fun name => Scope.ofName name = scope) side n := by
  rw [mem_unite]
  constructor
  · rintro ⟨detection, hdetection, hmem⟩
    obtain ⟨pair, hfiltered, rfl⟩ := List.mem_map.1 hdetection
    obtain ⟨hmapped, hscope⟩ := List.mem_filter.1 hfiltered
    obtain ⟨d, hd, rfl⟩ := List.mem_map.1 hmapped
    exact ⟨d, hd, by simpa using hscope, hmem⟩
  · rintro ⟨d, hd, hscope, hmem⟩
    refine ⟨d.2, List.mem_map.2 ⟨(Scope.ofName d.1, d.2), ?_, rfl⟩, hmem⟩
    exact List.mem_filter.2 ⟨List.mem_map_of_mem hd, by simpa using hscope⟩

lemma mem_lines_ofNamed :
    n ∈ (ofNamed pairs detections).lines.at side ↔
      NamedFlag detections (· ≠ Category.lineWrap.name) side n := by
  simp only [← ofName_eq_lines_iff]
  exact mem_unite_scope .lines

lemma mem_blocks_ofNamed :
    n ∈ (ofNamed pairs detections).blocks.at side ↔
      NamedFlag detections (· = Category.lineWrap.name) side n := by
  simp only [← ofName_eq_blocks_iff]
  exact mem_unite_scope .blocks

lemma pairs_ofNamed :
    (ofNamed pairs detections).pairs = pairs ++ detections.flatMap (·.2.pairs) := by
  simp [ofNamed, ofDetections, List.flatMap_map]

lemma collapses_ofNamed :
    (ofNamed pairs detections).collapses block = true ↔
      (∀ edit ∈ block,
        NamedFlag detections (· = Category.lineWrap.name) edit.side edit.number) ∧
        block.isTwoSided = true := by
  rw [collapses, Bool.and_eq_true, List.all_eq_true]
  simp only [holds_iff, mem_blocks_ofNamed]

lemma drops_ofNamed :
    (ofNamed pairs detections).drops edit = true ↔
      edit.side = .new ∧
        NamedFlag detections (· ≠ Category.lineWrap.name) .new edit.number ∧
        ∀ pair ∈ (pairs ++ detections.flatMap (·.2.pairs)).findRev?
            (·.added.number = edit.number),
          ¬ NamedFlag detections (· ≠ Category.lineWrap.name) .old pair.removed.number := by
  have hold : ∀ number, number ∈ (ofNamed pairs detections).lines.at .old ↔
      NamedFlag detections (· ≠ Category.lineWrap.name) .old number := fun _ => mem_lines_ofNamed
  simp only [drops, partner?, pairs_ofNamed, Bool.and_eq_true, decide_eq_true_eq, holds_iff,
    mem_lines_ofNamed, and_assoc]
  constructor
  · rintro ⟨hside, hflag, hpartner⟩
    rw [hside] at hflag
    refine ⟨hside, hflag, ?_⟩
    intro pair hpair
    rw [Option.mem_def] at hpair
    rw [hpair] at hpartner
    simpa [← hold, Sides.at] using hpartner
  · rintro ⟨hside, hflag, hpartner⟩
    refine ⟨hside, by rwa [hside], ?_⟩
    cases hpair : (pairs ++ detections.flatMap (·.2.pairs)).findRev?
        (·.added.number = edit.number) with
    | none => rfl
    | some pair => simpa [← hold, Sides.at] using hpartner pair hpair

end Flags

/-- Whatever pairs and detections a hunk is stripped by, its new version is kept but for added
lines that are flagged as single lines while the partner is missing or not flagged, and that stand
in no block that becomes context.  Context lines stay, the counts are those of the lines left, a
hunk is left exactly if a changed line is, and it is reported as unchanged exactly if its lines are
the ones it had. -/
theorem stripping_keeps_the_new_side (hunk : Hunk) (pairs : List ChangePair)
    (detections : List (Text × Detection)) :
    let flags := Flags.ofNamed pairs detections
    let left := flags.stripLines hunk.lines
    let dropped := flags.dropped hunk.lines
    newSide left = newSide (without (dropped.map Edit.index) hunk.lines) ∧
    (∀ edit, edit ∈ dropped ↔
      ∃ block ∈ blocks hunk.lines, edit ∈ block ∧ edit.side = .new ∧
        ¬ ((∀ other ∈ block, Flags.NamedFlag detections (· = Category.lineWrap.name)
            other.side other.number) ∧ block.isTwoSided = true) ∧
        Flags.NamedFlag detections (· ≠ Category.lineWrap.name) .new edit.number ∧
        ∀ pair ∈ (pairs ++ detections.flatMap (·.2.pairs)).findRev?
            (·.added.number = edit.number),
          ¬ Flags.NamedFlag detections (· ≠ Category.lineWrap.name) .old pair.removed.number) ∧
    (∀ edit ∈ dropped, hunk.lines[edit.index]? = some (.added edit.content edit.number)) ∧
    (hunk.lines.filter Line.isContext).Sublist left ∧
    (hunk.strip flags).hunk =
      (if left.any (!·.isContext) then some { hunk with lines := left, count := Line.tally left }
      else none) ∧
    ((hunk.strip flags).changed = false ↔ left = hunk.lines) := by
  intro flags left dropped
  refine ⟨Flags.newSide_stripLines flags hunk.lines, ?_, ?_,
    Flags.sublist_stripLines flags hunk.lines, rfl, ?_⟩
  · intro edit
    rw [Flags.mem_dropped]
    refine exists_congr fun block => and_congr_right fun _ => ?_
    rw [Flags.drops_ofNamed, ← Bool.not_eq_true, Flags.collapses_ofNamed]
    tauto
  · exact fun _ he => Flags.getElem?_of_mem_dropped he
  · rw [Flags.stripLines_eq_self_iff]
    exact List.any_eq_false.trans (by simp)

end DiffSieve
