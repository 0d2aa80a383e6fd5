import DiffSieve.Proofs.Rereading.Diff

/-!
# Files that come back as they were

`File.reread` is what a rendered file is read as.  A file that is `WellFormed` is its own reread, so
a diff of such files comes back exactly (`readDiff_renderDiff_of_wellFormed`).

Three things stand in the way of a file that was made and not read.  What is stored twice has to
agree: the header line and the counts of a hunk with its lines, the numbers of the lines with the
starts, the path with the path of the new version.  A text has to be one that its line can show: a
mode is a single word, and no text ends with a carriage return.  And the extended header shows only
what fits the kind of the file.

A path may hold anything else.  Spaces in it would only be in doubt in the line that opens the file,
and that line is the last word on a path only for the version that does not exist; hence the
condition on the paths of added and of deleted files.
-/

namespace DiffSieve

/-! ## Hunks -/

lemma Line.chomped_eq_self {line : Line} (h : line.content.getLast? ≠ some '\r') :
    line.chomped = line := by
  have hcontent : Text.dropFinal '\r' line.content = line.content := Text.dropFinal_of_ne h
  cases line <;> simpa [chomped, content] using hcontent

namespace Hunk

/-- Whether a hunk has a change and stores what its lines, starts and heading say. -/
@[mk_iff]
structure WellFormed (hunk : Hunk) : Prop where
  hasChanges : hunk.hasChanges = true
  start_old : Number.Readable hunk.start.old
  start_new : Number.Readable hunk.start.new
  heading : '\n' ∉ hunk.heading
  trim_heading : Text.trim hunk.heading = hunk.heading
  header_eq : hunk.header = hunk.renderHeader
  declared_eq : hunk.declared = hunk.tally
  count_eq : hunk.count = hunk.tally
  numbered : Numbered hunk.start hunk.lines
  contents : ∀ line ∈ hunk.lines, '\n' ∉ line.content ∧ line.content.getLast? ≠ some '\r'

instance (hunk : Hunk) : Decidable hunk.WellFormed :=
  decidable_of_iff' _ (wellFormed_iff hunk)

variable {hunk : Hunk}

lemma WellFormed.writable (h : hunk.WellFormed) : hunk.Writable where
  start_old := h.start_old
  start_new := h.start_new
  heading := h.heading
  contents := fun line hl => (h.contents line hl).1

lemma WellFormed.dropFinal_headingTail (h : hunk.WellFormed) :
    Text.dropFinal '\r' hunk.headingTail = hunk.headingTail := by
  have hheading : hunk.heading.getLast? ≠ some '\r' :=
    Text.getLast?_of_trim_eq_self h.trim_heading (by decide)
  unfold headingTail
  split
  · rfl
  · rw [← List.singleton_append, Text.dropFinal_append (by decide), Text.dropFinal_of_ne hheading]

lemma WellFormed.reread_eq_self (h : hunk.WellFormed) : hunk.reread = hunk := by
  have hheader : Text.dropFinal '\r' hunk.renderHeader = hunk.header := by
    rw [dropFinal_renderHeader_eq_self h.dropFinal_headingTail, h.header_eq]
  have hchomped : hunk.lines.map Line.chomped = hunk.lines := by
    refine (List.map_congr_left fun line hl => ?_).trans (List.map_id hunk.lines)
    exact Line.chomped_eq_self (h.contents line hl).2
  have hlines : renumber hunk.start hunk.lines = hunk.lines := h.numbered
  have hdeclared : hunk.tally = hunk.declared := h.declared_eq.symm
  have hcount : hunk.declared = hunk.count := h.declared_eq.trans h.count_eq.symm
  rw [reread, hheader, h.trim_heading, hchomped, hlines, hdeclared]
  exact congrArg (fun count => { hunk with count := count }) hcount

end Hunk

/-! ## Paths -/

/-- Whether a path can be shown after a one-letter directory, to the end of a line. -/
@[mk_iff]
structure IsPath (path : Text) : Prop where
  ne_nil : path ≠ []
  no_tab : '\t' ∉ path
  no_line_feed : '\n' ∉ path
  no_return : path.getLast? ≠ some '\r'

instance (path : Text) : Decidable (IsPath path) :=
  decidable_of_iff' _ (isPath_iff path)

lemma stripPathPrefix_cons {c : Char} {path : Text} (hc : Text.isLetter c = true)
    (h : path ≠ []) : stripPathPrefix (c :: '/' :: path) = path := by
  obtain ⟨d, rest, rfl⟩ := List.exists_cons_of_ne_nil h
  rw [stripPathPrefix, if_pos hc]

lemma eq_of_splitOn_eq_singleton {c : Char} {text piece : Text} (h : text.splitOn c = [piece]) :
    text = piece := by
  have hjoin : [c].intercalate (text.splitOn c) = text := List.intercalate_splitOn c
  rw [h] at hjoin
  simpa using hjoin.symm

/-- Two pieces are what stands on the two sides of the only separator. -/
lemma eq_and_eq_of_splitOn_eq_pair {c : Char} {first second x y : Text}
    (h : (first ++ c :: second).splitOn c = [x, y]) : first = x ∧ second = y := by
  rw [List.splitOn_append_cons_self] at h
  obtain ⟨piece, pieces, hfirst⟩ := List.exists_cons_of_ne_nil (List.splitOn_ne_nil c first)
  obtain ⟨piece', pieces', hsecond⟩ := List.exists_cons_of_ne_nil (List.splitOn_ne_nil c second)
  rw [hfirst, hsecond] at h
  cases pieces with
  | nil =>
    simp only [List.cons_append, List.nil_append, List.cons.injEq] at h
    obtain ⟨rfl, rfl, rfl⟩ := h
    exact ⟨eq_of_splitOn_eq_singleton hfirst, eq_of_splitOn_eq_singleton hsecond⟩
  | cons => simp at h

/-- The two paths of a rendered file are told apart if the first does not hold the words between
them. -/
lemma splitPaths_append {source : Text} (h : Text.holds " b/".toList source = false)
    (target : Text) :
    splitPaths ("a/".toList ++ source ++ " b/".toList ++ target) =
      ("a/".toList ++ source, "b/".toList ++ target) := by
  have hholds : Text.holds " b/".toList ("a/".toList ++ source) = false := by
    simpa [Text.holds, Text.cut] using h
  have hcut : Text.cut " b/".toList ("a/".toList ++ source ++ (" b/".toList ++ target)) =
      some ("a/".toList ++ source, target) :=
    Text.cut_append_of_not_holds (by decide) hholds target
  have hpieces : splitPaths.inPieces ("a/".toList ++ source ++ (" b/".toList ++ target)) =
      ("a/".toList ++ source, "b/".toList ++ target) := by
    rw [splitPaths.inPieces, hcut]
  rw [List.append_assoc ("a/".toList ++ source), splitPaths]
  split
  · next first second hwords =>
    split
    · -- two words: the space between them is the one that was written
      obtain ⟨hfirst, hsecond⟩ := eq_and_eq_of_splitOn_eq_pair hwords
      rw [← hfirst, ← hsecond]
      rfl
    · exact hpieces
  · exact hpieces

/-! ## Extended headers -/

/-- Whether a mode can be shown as the last word of a line. -/
@[mk_iff]
structure IsMode (mode : Text) : Prop where
  ne_nil : mode ≠ []
  no_space : ' ' ∉ mode
  no_line_feed : '\n' ∉ mode
  no_return : mode.getLast? ≠ some '\r'

instance (mode : Text) : Decidable (IsMode mode) :=
  decidable_of_iff' _ (isMode_iff mode)

/-- Whether the name of a content can be shown beside the dots that follow it. -/
@[mk_iff]
structure IsContentName (name : Text) : Prop where
  no_space : ' ' ∉ name
  no_dot : '.' ∉ name
  no_line_feed : '\n' ∉ name
  no_return : '\r' ∉ name

instance (name : Text) : Decidable (IsContentName name) :=
  decidable_of_iff' _ (isContentName_iff name)

lemma contentNames_append {old new : Text} (hold : IsContentName old) (hnew : IsContentName new) :
    Attribute.contentNames (old ++ ("..".toList ++ new)) = some (old, new) := by
  have hcut : Text.cut "..".toList (old ++ ("..".toList ++ new)) = some (old, new) :=
    Text.cut_append_of_not_mem hold.no_dot new
  have hholds : Text.holds "..".toList new = false := Text.holds_eq_false_of_not_mem hnew.no_dot
  rw [Attribute.contentNames, hcut]
  exact if_pos (congrArg (!·) hholds)

namespace File

lemma shownWord_eq_self {mode : Option Text} (h : ∀ word ∈ mode, IsMode word) :
    shownWord mode = mode := by
  cases mode with
  | none => rfl
  | some word =>
    have hword := h word rfl
    rw [shownWord_some hword.ne_nil, Text.dropFinal_of_ne hword.no_return,
      Attribute.lastWord_of_not_mem hword.no_space]

/-- The line of the two contents comes apart at its one space, if there is a mode. -/
lemma indexPieces_eq {metadata : Metadata} {old new : Text} (h : metadata.index = some (old, new))
    (hold : IsContentName old) (hnew : IsContentName new)
    (hmode : ∀ mode ∈ metadata.indexMode, IsMode mode) :
    indexPieces metadata = (old ++ ("..".toList ++ new)) :: metadata.indexMode.toList := by
  have hspace : ' ' ∉ old ++ ("..".toList ++ new) := by
    simp [hold.no_space, hnew.no_space]
  have hreturn : (old ++ "..".toList ++ new).getLast? ≠ some '\r' := by
    intro hlast
    rcases List.mem_append.1 (List.mem_of_getLast? hlast) with hmem | hmem
    · rcases List.mem_append.1 hmem with hmem | hmem
      · exact hold.no_return hmem
      · exact absurd hmem (by decide)
    · exact hnew.no_return hmem
  cases hindexMode : metadata.indexMode with
  | none =>
    simp only [indexPieces, h, hindexMode]
    rw [show (optionalLine [' '] none).flatten = [] from rfl, List.append_nil,
      Text.dropFinal_of_ne hreturn, List.append_assoc, List.splitOn_eq_singleton hspace]
    rfl
  | some mode =>
    have hword := hmode mode hindexMode
    have hline : (optionalLine [' '] (some mode)).flatten = ' ' :: mode := by
      simp [optionalLine, hword.ne_nil]
    have hkept : Text.dropFinal '\r' (' ' :: mode) = ' ' :: mode := by
      rw [← List.singleton_append, Text.dropFinal_append (by decide),
        Text.dropFinal_of_ne hword.no_return]
    simp only [indexPieces, h, hindexMode, hline]
    rw [Text.dropFinal_append hreturn, hkept, List.append_assoc old,
      List.splitOn_append_cons_self_of_not_mem hspace,
      List.splitOn_eq_singleton hword.no_space]
    rfl

/-- What a file is read back with shows what fits its kind. -/
lemma metadata_headerReread (file : File) :
    file.headerReread.metadata =
      { newFileMode := if file.kind = .add then shownWord file.metadata.newFileMode else none
        deletedFileMode :=
          if file.kind = .delete then shownWord file.metadata.deletedFileMode else none
        oldMode := shownWord file.metadata.oldMode
        newMode := shownWord file.metadata.newMode
        similarity := if file.kind = .rename then file.metadata.similarity else none
        index := (indexPieces file.metadata).head?.bind Attribute.contentNames
        indexMode := (indexPieces file.metadata).tail.head? } := by
  have hstart : (opened file.shownPaths).metadata = {} := rfl
  rw [headerReread, afterNames_eq]
  cases hkind : file.kind with
  | add =>
    cases hword : shownWord file.metadata.newFileMode <;>
      simp [afterIndex, afterKind, afterModes, withMetadata, hkind, hword, hstart]
  | delete =>
    cases hword : shownWord file.metadata.deletedFileMode <;>
      simp [afterIndex, afterKind, afterModes, withMetadata, hkind, hword, hstart]
  | modify | rename | other name =>
    simp [afterIndex, afterKind, afterModes, afterSimilarity, withMetadata, hkind, hstart]

end File

/-- A value that is only there if `p` holds is not lost by asking for `p`. -/
lemma ite_none_eq_self {α : Type} {p : Prop} [Decidable p] {value : Option α}
    (h : value.isSome = true → p) : (if p then value else none) = value := by
  by_cases hp : p
  · rw [if_pos hp]
  · have hnone : value = none := by
      simpa using fun hsome => hp (h hsome)
    rw [if_neg hp, hnone]

/-- Whether every mode, name and number of an extended header can be shown, and nothing is set that
the header of a file of this kind does not show. -/
@[mk_iff]
structure Metadata.WellFormed (kind : ChangeKind) (metadata : Metadata) : Prop where
  newFileMode : metadata.newFileMode.isSome = true → kind = .add
  deletedFileMode : metadata.deletedFileMode.isSome = true → kind = .delete
  similarity : metadata.similarity.isSome = true → kind = .rename
  indexMode : metadata.indexMode.isSome = true → metadata.index.isSome = true
  modes : ∀ mode ∈ [metadata.newFileMode, metadata.deletedFileMode, metadata.oldMode,
    metadata.newMode, metadata.indexMode], ∀ word ∈ mode, IsMode word
  names : ∀ names ∈ metadata.index, IsContentName names.1 ∧ IsContentName names.2
  readable : ∀ n ∈ metadata.similarity, Number.Readable n

instance (kind : ChangeKind) (metadata : Metadata) : Decidable (metadata.WellFormed kind) :=
  decidable_of_iff' _ (Metadata.wellFormed_iff kind metadata)

namespace File

lemma metadata_headerReread_eq_self {file : File} (h : file.metadata.WellFormed file.kind) :
    file.headerReread.metadata = file.metadata := by
  have hword : ∀ mode ∈ [file.metadata.newFileMode, file.metadata.deletedFileMode,
      file.metadata.oldMode, file.metadata.newMode, file.metadata.indexMode],
      shownWord mode = mode := fun mode hm => shownWord_eq_self (h.modes mode hm)
  have hindex : (indexPieces file.metadata).head?.bind Attribute.contentNames =
      file.metadata.index ∧ (indexPieces file.metadata).tail.head? = file.metadata.indexMode := by
    cases hnames : file.metadata.index with
    | none =>
      have hmode := h.indexMode
      rw [hnames] at hmode
      have hnone : file.metadata.indexMode = none := by simpa using hmode
      rw [indexPieces, hnames, hnone]
      exact ⟨rfl, rfl⟩
    | some names =>
      obtain ⟨old, new⟩ := names
      obtain ⟨hold, hnew⟩ := h.names _ hnames
      rw [indexPieces_eq hnames hold hnew (h.modes _ (by simp))]
      refine ⟨contentNames_append hold hnew, ?_⟩
      cases file.metadata.indexMode <;> rfl
  rw [metadata_headerReread, hindex.1, hindex.2, hword _ (by simp), hword _ (by simp),
    hword _ (by simp), hword _ (by simp), ite_none_eq_self h.newFileMode,
    ite_none_eq_self h.deletedFileMode, ite_none_eq_self h.similarity]

end File

/-! ## Files -/

/-- Whether a file has both paths, is reported under the second, has a change in each of its hunks
and stores in each what the lines say.  For a version that does not exist only the line that opens
the file shows a path, so the first path must not hold the words between the two. -/
@[mk_iff]
structure File.WellFormed (file : File) : Prop where
  kind : file.kind.known = file.kind
  source_isSome : file.source.isSome = true
  source : ∀ path ∈ file.source, IsPath path
  target : file.target = some file.path
  path : IsPath file.path
  unambiguous : file.kind = .add ∨ file.kind = .delete →
    ∀ path ∈ file.source, Text.holds " b/".toList path = false
  metadata : file.metadata.WellFormed file.kind
  hunks_ne_nil : file.hunks ≠ []
  hunks : ∀ hunk ∈ file.hunks, hunk.WellFormed

instance (file : File) : Decidable file.WellFormed :=
  decidable_of_iff' _ (File.wellFormed_iff file)

namespace File

variable {file : File}

lemma WellFormed.exists_source (h : file.WellFormed) :
    ∃ source, file.source = some source ∧ IsPath source ∧ file.sourcePath = source ∧
      file.targetPath = file.path := by
  obtain ⟨source, hsource⟩ := Option.isSome_iff_exists.1 h.source_isSome
  have hpath := h.source source hsource
  have hfirst : ∀ {first : Text} {second : Option Text} {last : Text}, first ≠ [] →
      firstKnown (some first) second last = first := by
    intro first second last hne
    rw [firstKnown, Option.filter_some, if_pos (by simp [hne])]
  refine ⟨source, hsource, hpath, ?_, ?_⟩
  · rw [sourcePath, hsource, hfirst hpath.ne_nil]
  · rw [targetPath, h.target, hfirst h.path.ne_nil]

/-- What the line that opens the file says of the paths, where it has the last word on one. -/
lemma WellFormed.opened_shownPaths (h : file.WellFormed)
    (hkind : file.kind = .add ∨ file.kind = .delete) :
    (opened file.shownPaths).source = file.source ∧
      (opened file.shownPaths).target = file.target ∧
      (opened file.shownPaths).path = file.path := by
  obtain ⟨source, hsource, hpath, hsourcePath, htargetPath⟩ := h.exists_source
  have hsplit := splitPaths_append (h.unambiguous hkind source hsource) file.path
  have hshown : file.shownPaths = "a/".toList ++ source ++ " b/".toList ++ file.path := by
    rw [shownPaths, hsourcePath, htargetPath, Text.dropFinal_of_ne h.path.no_return]
  have hstripSource : stripPathPrefix ("a/".toList ++ source) = source :=
    stripPathPrefix_cons (by decide) hpath.ne_nil
  have hstripTarget : stripPathPrefix ("b/".toList ++ file.path) = file.path :=
    stripPathPrefix_cons (by decide) h.path.ne_nil
  have hknown : ∀ {path : Text}, path ≠ [] → knownPath path = some path := by
    intro path hne
    rw [knownPath, if_neg (by simpa using hne)]
  rw [opened, hshown, hsplit]
  simp only [hstripSource, hstripTarget, hknown hpath.ne_nil, hknown h.path.ne_nil]
  exact ⟨hsource.symm, h.target.symm, rfl⟩

/-- The lines of the extended header leave the paths alone, except in a renamed file. -/
lemma paths_afterIndex {current : File} (hkind : file.kind ≠ .rename) :
    ((current.afterModes file.metadata).afterKind file).afterIndex file.metadata =
      { ((current.afterModes file.metadata).afterKind file).afterIndex file.metadata with
        source := current.source, target := current.target, path := current.path } := by
  cases h : file.kind with
  | add =>
    cases hword : shownWord file.metadata.newFileMode <;>
      simp [afterIndex, afterKind, afterModes, withMetadata, h, hword]
  | delete =>
    cases hword : shownWord file.metadata.deletedFileMode <;>
      simp [afterIndex, afterKind, afterModes, withMetadata, h, hword]
  | rename => exact absurd h hkind
  | modify | other name => simp [afterIndex, afterKind, afterModes, withMetadata, h]

lemma stripPathPrefix_pathBeforeTab {c : Char} {path : Text} (hc : Text.isLetter c = true)
    (htab : c ≠ '\t') (h : IsPath path) :
    stripPathPrefix (pathBeforeTab (Text.dropFinal '\r' (c :: '/' :: path))) = path := by
  have hkept : Text.dropFinal '\r' (c :: '/' :: path) = c :: '/' :: path := by
    rw [show c :: '/' :: path = [c, '/'] ++ path from rfl, Text.dropFinal_append (by simp),
      Text.dropFinal_of_ne h.no_return]
  have hnone : '\t' ∉ c :: '/' :: path := by
    simp [htab.symm, h.no_tab]
  rw [hkept, pathBeforeTab, Text.takeWhile_bne_eq_self hnone, stripPathPrefix_cons hc h.ne_nil]

/-- The paths of a well-formed file are read back: the names of the versions settle them, and for a
version that does not exist the line that opens the file does. -/
lemma WellFormed.paths_headerReread (h : file.WellFormed) :
    file.headerReread.source = file.source ∧ file.headerReread.target = file.target ∧
      file.headerReread.path = file.path := by
  obtain ⟨source, hsource, hpath, hsourcePath, htargetPath⟩ := h.exists_source
  have hsourceName (hadd : file.kind ≠ .add) :
      stripPathPrefix (pathBeforeTab (Text.dropFinal '\r' file.sourceName)) = source := by
    rw [sourceName, versionName, if_neg hadd, hsourcePath]
    exact stripPathPrefix_pathBeforeTab (by decide) (by decide) hpath
  have htargetName (hdelete : file.kind ≠ .delete) :
      stripPathPrefix (pathBeforeTab (Text.dropFinal '\r' file.targetName)) = file.path := by
    rw [targetName, versionName, if_neg hdelete, htargetPath]
    exact stripPathPrefix_pathBeforeTab (by decide) (by decide) h.path
  rw [headerReread, afterNames_eq]
  refine ⟨?_, ?_, ?_⟩
  · by_cases hadd : file.kind = .add
    · rw [paths_afterIndex (by simp [hadd])]
      simp only [if_pos hadd]
      exact (h.opened_shownPaths (.inl hadd)).1
    · simp only [if_neg hadd]
      rw [hsourceName hadd, hsource]
  · by_cases hdelete : file.kind = .delete
    · rw [paths_afterIndex (by simp [hdelete])]
      simp only [if_pos hdelete]
      exact (h.opened_shownPaths (.inr hdelete)).2.1
    · simp only [if_neg hdelete]
      rw [htargetName hdelete, h.target]
  · by_cases hdelete : file.kind = .delete
    · rw [paths_afterIndex (by simp [hdelete])]
      simp only [if_pos hdelete]
      exact (h.opened_shownPaths (.inr hdelete)).2.2
    · simp only [if_neg hdelete]
      exact htargetName hdelete

lemma WellFormed.reread_eq_self (h : file.WellFormed) : file.reread = file := by
  obtain ⟨hsource, htarget, hpath⟩ := h.paths_headerReread
  have hkind : file.headerReread.kind = file.kind := by rw [kind_headerReread, h.kind]
  have hmetadata := metadata_headerReread_eq_self h.metadata
  have hshown : file.hunks.filter Hunk.hasChanges = file.hunks :=
    List.filter_eq_self.2 fun hunk hm => (h.hunks hunk hm).hasChanges
  have hhunks : file.hunks.map Hunk.reread = file.hunks :=
    (List.map_congr_left fun hunk hm => (h.hunks hunk hm).reread_eq_self).trans (List.map_id _)
  calc file.reread
      = { path := file.headerReread.path, source := file.headerReread.source,
          target := file.headerReread.target, kind := file.headerReread.kind,
          metadata := file.headerReread.metadata,
          hunks := (file.hunks.filter Hunk.hasChanges).map Hunk.reread } := rfl
    _ = file := by rw [hpath, hsource, htarget, hkind, hmetadata, hshown, hhunks]

lemma WellFormed.hasChanges (h : file.WellFormed) : file.hasChanges = true := by
  obtain ⟨hunk, rest, hcons⟩ := List.exists_cons_of_ne_nil h.hunks_ne_nil
  have hmem : hunk ∈ file.hunks := by
    rw [hcons]
    exact .head _
  exact List.any_eq_true.2 ⟨hunk, hmem, (h.hunks hunk hmem).hasChanges⟩

lemma WellFormed.writable (h : file.WellFormed) : file.Writable where
  path := h.path.no_line_feed
  source := fun path hp => (h.source path hp).no_line_feed
  target := by
    rw [h.target]
    rintro _ ⟨⟩
    exact h.path.no_line_feed
  metadata :=
    { modes := fun mode hm word hw => (h.metadata.modes mode hm word hw).no_line_feed
      index := fun names hn =>
        ⟨(h.metadata.names names hn).1.no_line_feed, (h.metadata.names names hn).2.no_line_feed⟩
      similarity := h.metadata.readable }
  hunks := fun hunk hm => (h.hunks hunk hm).writable

end File

/-! ## The round trip -/

/-- The text of well-formed files is read as these files, exactly; and only a hunk with a count of
more digits than are converted, which takes `10 ^ 4300` lines, stands against it. -/
theorem readDiff_renderDiff_of_wellFormed {files : List File}
    (h : ∀ file ∈ files, file.WellFormed) :
    readDiff (renderDiff files) = .ok files ↔ CountsReadable files := by
  have hshown : files.filter File.hasChanges = files :=
    List.filter_eq_self.2 fun file hf => (h file hf).hasChanges
  have hsame : files.map File.reread = files :=
    (List.map_congr_left fun file hf => (h file hf).reread_eq_self).trans (List.map_id _)
  rw [readDiff_renderDiff_eq_ok_iff fun file hf => (h file hf).writable, hshown, hsame]
  exact ⟨fun hread => hread.2, fun hcounts => ⟨rfl, hcounts⟩⟩

/-- A renamed file whose paths hold spaces and whose lines look like headers. -/
def renamedFile : File where
  path := "b b/y.ts".toList
  source := some "x b/y.ts".toList
  target := some "b b/y.ts".toList
  kind := .rename
  metadata :=
    { oldMode := some "100644".toList, newMode := some "100755".toList, similarity := some 97
      index := some ("1a".toList, "2b".toList), indexMode := some "100755".toList }
  hunks :=
    [{ header := "@@ -3,1 +3,2 @@ f()".toList, heading := "f()".toList, start := ⟨3, 3⟩
       count := ⟨1, 2⟩, declared := ⟨1, 2⟩
       lines := [.context "@@ -1 +1 @@".toList 3 3, .added "diff --git a/x b/x".toList 4] }]

theorem readDiff_renderDiff_renamedFile :
    readDiff (renderDiff [sampleFile, renamedFile]) = .ok [sampleFile, renamedFile] := by
  have hwell : ∀ file ∈ [sampleFile, renamedFile], file.WellFormed := by
    decide +kernel
  have hcounts : CountsReadable [sampleFile, renamedFile] := by
    refine countsReadable_of_length_lt ?_
    decide +kernel
  exact (readDiff_renderDiff_of_wellFormed hwell).2 hcounts

end DiffSieve
