import DiffSieve.Proofs.LineEnds
import DiffSieve.Proofs.Numerals
import DiffSieve.Proofs.Reader

/-!
# The rendered header of a file read back

The lines before the first hunk of a rendered file are the line that opens it, the lines of the
extended header, and the two lines that name its versions.  Each of them is recognized by the words
it opens with, whatever stands after them, so the reader passes through them one by one and never
leaves the header of the file.  `File.Passes` says that it comes from one state of the header to
another, and a header is passed by passing its parts.

What the reader knows at the end is `File.headerReread`.  It is built in the order of the lines,
because a later line may correct an earlier one: the paths of the opening line are guessed where
they hold spaces, and the lines that name the versions settle them.
-/

namespace DiffSieve

/-! ## Words of a line -/

lemma Text.takeWhile_bne_eq_self {c : Char} {text : Text} (h : c ∉ text) :
    text.takeWhile (· != c) = text := by
  rw [List.takeWhile_eq_self_iff]
  intro d hd
  rw [bne_iff_ne]
  rintro rfl
  exact h hd

namespace Attribute

lemma lastWord_of_not_mem {text : Text} (h : ' ' ∉ text) : lastWord text = text := by
  rw [lastWord, Text.afterLast, Text.takeWhile_bne_eq_self (by simpa using h),
    List.reverse_reverse]

lemma ofSimilarity_ofNat (n : Nat) :
    ofSimilarity (Number.ofNat n ++ ['%']) = .similarity (Number.ofNat n) := by
  have hdecimal : ∀ {c}, c ∈ Number.ofNat n → Text.isDecimal c = true :=
    Number.isDecimal_of_mem_ofNat
  have hblank : ' ' ∉ Number.ofNat n ++ ['%'] := by
    intro hc
    rcases List.mem_append.1 hc with hc | hc
    · exact absurd (hdecimal hc) (by decide)
    · exact absurd hc (by decide)
  have hpercent : ∀ c ∈ (Number.ofNat n).reverse, ¬ decide (c = '%') = true := by
    intro c hc heq
    rw [of_decide_eq_true heq] at hc
    exact absurd (hdecimal (List.mem_reverse.1 hc)) (by decide)
  have hdrop : (Number.ofNat n).reverse.dropWhile (· = '%') = (Number.ofNat n).reverse :=
    List.dropWhile_eq_self_iff.2 fun hlt => hpercent _ (List.getElem_mem hlt)
  rw [ofSimilarity, lastWord_of_not_mem hblank, Text.dropEndWhile, List.reverse_append,
    List.reverse_singleton, List.singleton_append, List.dropWhile_cons_of_pos (by decide), hdrop,
    List.reverse_reverse]

lemma ofIndex_eq (rest : Text) :
    ofIndex rest =
      .index ((rest.splitOn ' ').head?.bind contentNames) (rest.splitOn ' ').tail.head? := by
  rw [ofIndex]
  split
  · next h => rw [h]; rfl
  · next h => rw [h]; rfl

end Attribute

/-! ## Passing through lines -/

/-- The kinds that a header can show; every other one is shown as a modification. -/
def ChangeKind.known : ChangeKind → ChangeKind
  | other _ => modify
  | kind => kind

namespace File

/-- Whether the reader comes through written lines from the header of `current` to the header of
`next`, whatever follows. -/
def Passes (current : File) (written : List Text) (next : File) : Prop :=
  ∀ rest, readFrom (.header current) (written.map (Text.dropFinal '\r') ++ rest) =
    readFrom (.header next) rest

variable {current next last : File}

lemma passes_nil (current : File) : current.Passes [] current :=
  fun _ => rfl

lemma Passes.append {first second : List Text} (hf : current.Passes first next)
    (hs : next.Passes second last) : current.Passes (first ++ second) last := by
  intro rest
  rw [List.map_append, List.append_assoc, hf, hs]

lemma passes_extended {line : Text} {field : Attribute}
    (hrole : Role.ofLine (Text.dropFinal '\r' line) = .extended field)
    (hrecord : current.record field = .ok next) : current.Passes [line] next := by
  intro rest
  show readFrom (.header current) (Text.dropFinal '\r' line :: rest) = _
  rw [readFrom_cons_of_step _ (by simp [hrole]), hrole, Place.step]
  simp only [Place.file?, hrecord]
  rfl

lemma passes_content (current : File) {line : Text}
    (hrole : Role.ofLine (Text.dropFinal '\r' line) = .content) :
    current.Passes [line] (current.recordPaths (Text.dropFinal '\r' line)) := by
  intro rest
  show readFrom (.header current) (Text.dropFinal '\r' line :: rest) = _
  rw [readFrom_cons_of_step _ (by simp [hrole]), hrole]
  rfl

/-! ## The extended header -/

/-- The word that an optional line is read as. -/
def shownWord (text : Option Text) : Option Text :=
  (text.filter (!·.isEmpty)).map fun text => Attribute.lastWord (Text.dropFinal '\r' text)

lemma shownWord_some {text : Text} (h : text ≠ []) :
    shownWord (some text) = some (Attribute.lastWord (Text.dropFinal '\r' text)) := by
  rw [shownWord, Option.filter_some, if_pos (by simp [h]), Option.map_some]

/-- A line that may be left out is passed by what it states, if leaving it out changes nothing. -/
lemma passes_optionalLine {lead : Text} (field : Text → Attribute) (after : Option Text → File)
    (hlead : lead.getLast? ≠ some '\r')
    (hrole : ∀ rest, Role.ofLine (lead ++ rest) = .extended (field (Attribute.lastWord rest)))
    (hnone : after none = current)
    (hsome : ∀ word, current.record (field word) = .ok (after (some word))) (text : Option Text) :
    current.Passes (optionalLine lead text) (after (shownWord text)) := by
  have habsent : current.Passes [] (after none) := by
    rw [hnone]
    exact passes_nil current
  cases text with
  | none => exact habsent
  | some text =>
    by_cases hempty : text = []
    · subst hempty
      exact habsent
    · rw [shownWord_some hempty, optionalLine, if_neg (by simpa using hempty)]
      refine passes_extended ?_ (hsome _)
      rw [Text.dropFinal_append hlead]
      exact hrole _

/-- What is known after the lines that show how the mode of a file changed. -/
def afterModes (current : File) (metadata : Metadata) : File :=
  current.withMetadata fun m =>
    { m with
      oldMode := shownWord metadata.oldMode <|> m.oldMode
      newMode := shownWord metadata.newMode <|> m.newMode }

lemma passes_modes (current : File) (metadata : Metadata) :
    current.Passes (optionalLine "old mode ".toList metadata.oldMode ++
      optionalLine "new mode ".toList metadata.newMode) (current.afterModes metadata) := by
  have hold : current.Passes (optionalLine "old mode ".toList metadata.oldMode)
      (current.withMetadata fun m =>
        { m with oldMode := shownWord metadata.oldMode <|> m.oldMode }) :=
    passes_optionalLine .oldMode
      (fun word => current.withMetadata fun m => { m with oldMode := word <|> m.oldMode })
      (by decide) (fun _ => rfl) rfl (fun _ => rfl) _
  refine hold.append ?_
  exact passes_optionalLine .newMode
    (fun word => current.withMetadata fun m =>
      { m with
        oldMode := shownWord metadata.oldMode <|> m.oldMode, newMode := word <|> m.newMode })
    (by decide) (fun _ => rfl) rfl (fun _ => rfl) _

/-- What is known after the line that shows a similarity. -/
def afterSimilarity (current : File) (similarity : Option Int) : File :=
  current.withMetadata fun m => { m with similarity := similarity <|> m.similarity }

lemma passes_similarity (current : File) (similarity : Option Int) :
    (∀ n ∈ similarity, Number.Readable n) →
    current.Passes
      (match similarity with
        | some n => ["similarity index ".toList ++ Number.ofInt n ++ ['%']]
        | none => [])
      (current.afterSimilarity similarity) := by
  intro h
  cases similarity with
  | none => exact passes_nil current
  | some n =>
    obtain ⟨k, rfl, hread⟩ := (h n rfl).read_ofInt
    have hrole : Role.ofLine (Text.dropFinal '\r'
        ("similarity index ".toList ++ Number.ofInt k ++ ['%'])) =
          .extended (.similarity (Number.ofNat k)) := by
      rw [Text.dropFinal_of_ne (by rw [List.getLast?_concat]; decide), List.append_assoc]
      show Role.extended (Attribute.ofSimilarity (Number.ofNat k ++ ['%'])) = _
      rw [Attribute.ofSimilarity_ofNat]
    have hdigits : (!(Number.ofNat k).isEmpty && (Number.ofNat k).all Text.isDigit) = true := by
      have hall : ∀ c ∈ Number.ofNat k, Text.isDigit c = true :=
        fun _ hc => Text.isDigit_of_isDecimal (Number.isDecimal_of_mem_ofNat hc)
      have hne := Number.ofNat_ne_nil k
      simpa [hne] using hall
    refine passes_extended hrole ?_
    rw [record, if_pos hdigits]
    rw [show Number.ofInt k = Number.ofNat k from rfl] at hread
    rw [hread]
    rfl

/-- What is known after the lines that depend on what happened to the file. -/
def afterKind (current file : File) : File :=
  match file.kind with
  | .add =>
    match shownWord file.metadata.newFileMode with
    | some mode => { current.withMetadata ({ · with newFileMode := some mode }) with kind := .add }
    | none => current
  | .delete =>
    match shownWord file.metadata.deletedFileMode with
    | some mode =>
      { current.withMetadata ({ · with deletedFileMode := some mode }) with kind := .delete }
    | none => current
  | .rename =>
    { current.afterSimilarity file.metadata.similarity with
      kind := .rename
      source := some (Text.dropFinal '\r' file.sourcePath)
      target := some (Text.dropFinal '\r' file.targetPath)
      path := Text.dropFinal '\r' file.targetPath }
  | _ => current

lemma passes_renderKind (current : File) {file : File}
    (h : ∀ n ∈ file.metadata.similarity, Number.Readable n) :
    current.Passes file.renderKind (current.afterKind file) := by
  cases hkind : file.kind with
  | add =>
    simp only [renderKind, afterKind, hkind]
    exact passes_optionalLine .newFileMode
      (fun word => match word with
        | some mode =>
          { current.withMetadata ({ · with newFileMode := some mode }) with kind := .add }
        | none => current)
      (by decide) (fun _ => rfl) rfl (fun _ => rfl) _
  | delete =>
    simp only [renderKind, afterKind, hkind]
    exact passes_optionalLine .deletedFileMode
      (fun word => match word with
        | some mode =>
          { current.withMetadata ({ · with deletedFileMode := some mode }) with kind := .delete }
        | none => current)
      (by decide) (fun _ => rfl) rfl (fun _ => rfl) _
  | rename =>
    have hsource : Role.ofLine (Text.dropFinal '\r' ("rename from ".toList ++ file.sourcePath)) =
        .extended (.renameFrom (Text.dropFinal '\r' file.sourcePath)) := by
      rw [Text.dropFinal_append (by decide)]
      rfl
    have htarget : Role.ofLine (Text.dropFinal '\r' ("rename to ".toList ++ file.targetPath)) =
        .extended (.renameTo (Text.dropFinal '\r' file.targetPath)) := by
      rw [Text.dropFinal_append (by decide)]
      rfl
    simp only [renderKind, afterKind, hkind]
    have hsimilarity := passes_similarity current file.metadata.similarity h
    exact hsimilarity.append ((passes_extended hsource rfl).append (passes_extended htarget rfl))
  | modify | other name =>
    simp only [renderKind, afterKind, hkind]
    exact passes_nil current

/-- What the line of the two contents says after its first word, in pieces between spaces. -/
def indexPieces (metadata : Metadata) : List Text :=
  match metadata.index with
  | some (old, new) =>
    (Text.dropFinal '\r' (old ++ "..".toList ++ new ++
      (optionalLine [' '] metadata.indexMode).flatten)).splitOn ' '
  | none => []

/-- What is known after the line of the two contents. -/
def afterIndex (current : File) (metadata : Metadata) : File :=
  current.withMetadata fun m =>
    { m with
      index := (indexPieces metadata).head?.bind Attribute.contentNames <|> m.index
      indexMode := (indexPieces metadata).tail.head? <|> m.indexMode }

lemma passes_renderIndex (current : File) (metadata : Metadata) :
    current.Passes (renderIndex metadata) (current.afterIndex metadata) := by
  cases hindex : metadata.index with
  | none =>
    simp only [renderIndex, afterIndex, indexPieces, hindex]
    exact passes_nil current
  | some names =>
    obtain ⟨old, new⟩ := names
    simp only [renderIndex, afterIndex, indexPieces, hindex]
    refine passes_extended (Eq.trans ?_ (congrArg Role.extended (Attribute.ofIndex_eq _))) rfl
    simp only [List.append_assoc]
    rw [Text.dropFinal_append (by decide)]
    rfl

/-! ## The names of the versions -/

/-- The name that is shown for a version, which does not exist in a file of the kind `absent`. -/
def versionName (absent kind : ChangeKind) (directory : Char) (path : Text) : Text :=
  if kind = absent then nullDevice else directory :: '/' :: path

/-- The name that is shown for the old version. -/
def sourceName (file : File) : Text :=
  versionName .add file.kind 'a' file.sourcePath

/-- The name that is shown for the new version. -/
def targetName (file : File) : Text :=
  versionName .delete file.kind 'b' file.targetPath

/-- Only a version that does not exist is read as one. -/
lemma pathBeforeTab_versionName_eq_iff {absent kind : ChangeKind} {directory : Char}
    (htab : directory ≠ '\t') (hslash : directory ≠ '/') (path : Text) :
    pathBeforeTab (Text.dropFinal '\r' (versionName absent kind directory path)) = nullDevice ↔
      kind = absent := by
  unfold versionName
  by_cases habsent : kind = absent
  · rw [if_pos habsent]
    exact iff_of_true (by decide) habsent
  · have hlead : directory :: '/' :: path = [directory, '/'] ++ path := rfl
    rw [if_neg habsent, hlead, Text.dropFinal_append (by simp), pathBeforeTab, List.cons_append,
      List.takeWhile_cons_of_pos (by simpa using htab)]
    refine iff_of_false (fun h => ?_) habsent
    have hhead : some directory = some '/' := congrArg List.head? h
    exact hslash (Option.some.inj hhead)

/-- What is known after the two lines that name the versions. -/
def afterNames (current file : File) : File :=
  (current.nameSource (pathBeforeTab (Text.dropFinal '\r' file.sourceName))).nameTarget
    (pathBeforeTab (Text.dropFinal '\r' file.targetName))

lemma passes_names (current file : File) :
    current.Passes ["--- ".toList ++ file.sourceName, "+++ ".toList ++ file.targetName]
      (current.afterNames file) := by
  have hsource : Role.ofLine (Text.dropFinal '\r' ("--- ".toList ++ file.sourceName)) =
      .content := by
    rw [Text.dropFinal_append (by decide)]
    rfl
  have htarget : Role.ofLine (Text.dropFinal '\r' ("+++ ".toList ++ file.targetName)) =
      .content := by
    rw [Text.dropFinal_append (by decide)]
    rfl
  have hfirst := passes_content current hsource
  have hsecond := passes_content
    (current.nameSource (pathBeforeTab (Text.dropFinal '\r' file.sourceName))) htarget
  rw [Text.dropFinal_append (by decide)] at hfirst hsecond
  exact hfirst.append hsecond

/-! ## The whole header -/

/-- The two paths in the line that opens a file, as they are read. -/
def shownPaths (file : File) : Text :=
  "a/".toList ++ file.sourcePath ++ " b/".toList ++ Text.dropFinal '\r' file.targetPath

/-- What the reader knows of a file after the lines of its rendered header. -/
def headerReread (file : File) : File :=
  ((((opened file.shownPaths).afterModes file.metadata).afterKind file).afterIndex
    file.metadata).afterNames file

/-- Wherever the reader is, the rendered header of a file ends the file before it and begins this
one. -/
lemma readFrom_renderHeader (place : Place) {file : File}
    (h : ∀ n ∈ file.metadata.similarity, Number.Readable n) (rest : List Text) :
    readFrom place (file.renderHeader.map (Text.dropFinal '\r') ++ rest) =
      (readFrom (.header file.headerReread) rest).map (place.file?.toList ++ ·) := by
  have hline : Text.dropFinal '\r'
      ("diff --git a/".toList ++ file.sourcePath ++ " b/".toList ++ file.targetPath) =
        fileLead ++ file.shownPaths := by
    have hlead : ∀ lead : Text, (lead ++ " b/".toList).getLast? ≠ some '\r' := by simp
    rw [Text.dropFinal_append (hlead _)]
    simp only [shownPaths, List.append_assoc]
    rfl
  have hopen : Role.ofLine (fileLead ++ file.shownPaths) = .file file.shownPaths := by
    rw [Role.ofLine, Text.after?_append]
  have hpasses : (opened file.shownPaths).Passes
      (optionalLine "old mode ".toList file.metadata.oldMode ++
        optionalLine "new mode ".toList file.metadata.newMode ++ file.renderKind ++
        renderIndex file.metadata ++
        ["--- ".toList ++ file.sourceName, "+++ ".toList ++ file.targetName])
      file.headerReread :=
    (((passes_modes _ _).append (passes_renderKind _ h)).append (passes_renderIndex _ _)).append
      (passes_names _ file)
  have hsplit : file.renderHeader =
      ("diff --git a/".toList ++ file.sourcePath ++ " b/".toList ++ file.targetPath) ::
        (optionalLine "old mode ".toList file.metadata.oldMode ++
        optionalLine "new mode ".toList file.metadata.newMode ++ file.renderKind ++
        renderIndex file.metadata ++
        ["--- ".toList ++ file.sourceName, "+++ ".toList ++ file.targetName]) := by
    simp only [renderHeader, sourceName, targetName, versionName, List.append_assoc,
      List.cons_append, List.nil_append]
    rfl
  rw [hsplit, List.map_cons, List.cons_append, hline, readFrom_cons_of_file place hopen, hpasses]

/-! ## What happened to the file

An added file is told from its missing old version and a deleted one from its missing new version,
should no mode say it; a renamed file always has its two lines. -/

/-- What the two lines that name the versions settle. -/
lemma afterNames_eq (current file : File) :
    current.afterNames file =
      { current with
        kind :=
          if current.kind = .modify then
            if file.kind = .add then .add else if file.kind = .delete then .delete else .modify
          else current.kind
        source :=
          if file.kind = .add then current.source
          else some (stripPathPrefix (pathBeforeTab (Text.dropFinal '\r' file.sourceName)))
        target :=
          if file.kind = .delete then current.target
          else some (stripPathPrefix (pathBeforeTab (Text.dropFinal '\r' file.targetName)))
        path :=
          if file.kind = .delete then current.path
          else stripPathPrefix (pathBeforeTab (Text.dropFinal '\r' file.targetName)) } := by
  have hsource : pathBeforeTab (Text.dropFinal '\r' file.sourceName) = nullDevice ↔
      file.kind = .add := pathBeforeTab_versionName_eq_iff (by decide) (by decide) _
  have htarget : pathBeforeTab (Text.dropFinal '\r' file.targetName) = nullDevice ↔
      file.kind = .delete := pathBeforeTab_versionName_eq_iff (by decide) (by decide) _
  simp only [afterNames, nameSource, nameTarget, hsource, htarget]
  by_cases hadd : file.kind = .add
  · by_cases hmodify : current.kind = .modify <;> simp [hadd, hmodify]
  · by_cases hdelete : file.kind = .delete
    · by_cases hmodify : current.kind = .modify <;> simp [hdelete, hmodify]
    · by_cases hmodify : current.kind = .modify <;> simp [hadd, hdelete, hmodify]

lemma kind_afterKind {current : File} (hc : current.kind = .modify) (file : File) :
    (current.afterKind file).kind = .modify ∧ file.kind ≠ .rename ∨
      (current.afterKind file).kind = file.kind.known := by
  cases hkind : file.kind with
  | add =>
    cases hword : shownWord file.metadata.newFileMode <;>
      simp [afterKind, hkind, hword, hc, ChangeKind.known]
  | delete =>
    cases hword : shownWord file.metadata.deletedFileMode <;>
      simp [afterKind, hkind, hword, hc, ChangeKind.known]
  | modify | rename | other name => simp [afterKind, hkind, hc, ChangeKind.known]

/-- A file is read back with its own kind, if that is one of those that a header shows. -/
lemma kind_headerReread (file : File) : file.headerReread.kind = file.kind.known := by
  have hstart : ((opened file.shownPaths).afterModes file.metadata).kind = .modify := rfl
  have hindex : ∀ current : File, (current.afterIndex file.metadata).kind = current.kind :=
    fun _ => rfl
  have hkind := kind_afterKind hstart file
  rw [headerReread, afterNames_eq]
  simp only [hindex]
  revert hkind
  generalize (((opened file.shownPaths).afterModes file.metadata).afterKind file).kind = kind
  intro hkind
  rcases hkind with ⟨rfl, hrename⟩ | rfl
  · cases hk : file.kind <;> simp_all [ChangeKind.known]
  · cases hk : file.kind <;> simp [ChangeKind.known]

lemma hunks_headerReread (file : File) : file.headerReread.hunks = [] := by
  rw [headerReread, afterNames_eq]
  show (((opened file.shownPaths).afterModes file.metadata).afterKind file).hunks = []
  unfold afterKind
  repeat' split
  all_goals rfl

end File
end DiffSieve
