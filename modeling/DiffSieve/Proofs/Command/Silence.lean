import DiffSieve.Proofs.Command.AllOrNothing

/-!
# What a quiet command says

A command that is asked to be quiet says errors only, with one exception: if it sees something
where it looks for its rules and cannot read it, since it is a folder or the system refuses, it says
so (`warnings_perform`).  Every other warning is guarded by the switch, and that one is not: it is
given by the reader of the rules, which does not know the switch.

Whether a command is asked to be quiet is for its options to tell, and a word for the switch is
enough for it unless it comes after a separator (`asksForQuiet_of_mem`): once the switch is set
nothing takes it back, and a word for it that is not taken for it has the arguments refused or comes
after help was asked for.
-/

namespace DiffSieve

variable {convention : Convention}

/-! ## Errors and warnings -/

namespace Diagnostic

/-- What the text of an error opens with, and no other text. -/
def errorLeads : List Text :=
  ["Error".toList, "An unexpected error occurred: ".toList, "cleandiff: error: ".toList]

lemma opensWithAny_errorLeads (d : Diagnostic) :
    Text.opensWithAny errorLeads d.render = d.isError := by
  cases d with
  | tableRow change old new =>
    obtain ⟨category, flagged, path⟩ := change
    cases category <;> rfl
  | _ => rfl

end Diagnostic

namespace Attempt

variable {α β : Type}

/-- All that an attempt says, its failure last. -/
def utters (attempt : Attempt α) : List Diagnostic :=
  attempt.said ++
    match attempt.result with
    | .ok _ => []
    | .error d => [d]

/-- What an attempt says that is no error. -/
def warnings (attempt : Attempt α) : List Diagnostic :=
  attempt.utters.filter (!·.isError)

lemma warnings_bind (attempt : Attempt α) (next : α → Attempt β) :
    (attempt >>= next).warnings = attempt.warnings ++
      match attempt.result with
      | .ok a => (next a).warnings
      | .error _ => [] := by
  obtain ⟨said, result⟩ := attempt
  cases result with
  | error d => exact (List.append_nil _).symm
  | ok a =>
    show ((said ++ (next a).said) ++ _).filter (!·.isError) =
      (said ++ []).filter (!·.isError) ++ ((next a).said ++ _).filter (!·.isError)
    rw [List.append_nil, List.append_assoc, List.filter_append]
    rfl

/-- An attempt that goes on without a warning gives the warnings of its first part. -/
lemma warnings_bind_of_silent {attempt : Attempt α} {next : α → Attempt β}
    (h : ∀ a, attempt.result = .ok a → (next a).warnings = []) :
    (attempt >>= next).warnings = attempt.warnings := by
  rw [warnings_bind]
  cases hresult : attempt.result with
  | error d => exact List.append_nil _
  | ok a =>
    show attempt.warnings ++ (next a).warnings = _
    rw [h a hresult, List.append_nil]

/-- An attempt whose first part gives no warning gives those of the rest, if it comes to it. -/
lemma warnings_bind_of_ok {attempt : Attempt α} {next : α → Attempt β} {a : α}
    (h : attempt.warnings = []) (hresult : attempt.result = .ok a) :
    (attempt >>= next).warnings = (next a).warnings := by
  rw [warnings_bind, h, hresult]
  rfl

@[simp] lemma warnings_pure (a : α) : (pure a : Attempt α).warnings = [] := rfl

lemma warnings_ofExcept {ε : Type} {diagnose : ε → Diagnostic}
    (h : ∀ e, (diagnose e).isError = true) (result : Except ε α) :
    (ofExcept diagnose result).warnings = [] := by
  cases result with
  | ok a => rfl
  | error e => simp [warnings, utters, ofExcept, Except.mapError, h e]

end Attempt

lemma isError_diagnosePath (name : Text) {asOwn : Text → Diagnostic}
    (h : ∀ cause, (asOwn cause).isError = true) (fault : PathFault) :
    (diagnosePath name asOwn fault).isError = true := by
  unfold diagnosePath
  split
  · exact h _
  · rfl

/-! ## Places where a command speaks -/

lemma warnings_readSource (world : World) (name : Text) :
    (readSource world name).warnings = [] := by
  unfold readSource
  split
  · exact Attempt.warnings_ofExcept (fun fault => by cases fault <;> rfl) _
  · refine (Attempt.warnings_bind_of_silent fun bytes _ => ?_).trans
      (Attempt.warnings_ofExcept (isError_diagnosePath _ fun _ => rfl) _)
    exact (Attempt.warnings_bind_of_silent fun text _ => rfl).trans
      (Attempt.warnings_ofExcept (fun _ => rfl) _)

lemma warnings_deliver (world : World) (options : Options) (text : Text) :
    (deliver world options text).warnings = [] := by
  unfold deliver
  split
  · rfl
  · exact Attempt.warnings_ofExcept (isError_diagnosePath _ fun _ => rfl) _

namespace Directory

variable {directory : Directory} {name : Text}

/-- Why what is seen at the place of a name cannot be read, if anything is seen there: the system
refuses, or it is a folder. -/
def obstacle? (directory : Directory) (name : Text) : Option PathFault :=
  match directory.find name with
  | .error _ => none
  | .ok path =>
    match directory.look path, directory.refusal? .read path with
    | .error _, _ => none
    | .ok _, some refusal => some (.reported refusal)
    | .ok .folder, none => some .isFolder
    | .ok (.file _), none => none

/-- What stands in the way is the fault of reading what is there. -/
lemma obstacle?_eq (directory : Directory) (name : Text) :
    directory.obstacle? name =
      match directory.exists? name with
      | .ok true => failure? (directory.read name)
      | _ => none := by
  rw [read_eq]
  unfold obstacle? exists?
  cases hfind : directory.find name with
  | error fault => cases habsent : fault.meansAbsent <;> simp [bind, Except.bind, habsent]
  | ok path =>
    cases hlook : directory.look path with
    | error fault => cases habsent : fault.meansAbsent <;> simp [bind, Except.bind, hlook, habsent]
    | ok node =>
      cases hread : directory.refusal? .read path with
      | some refusal => simp [bind, Except.bind, hlook, permit, hread]
      | none => cases node <;> simp [bind, Except.bind, hlook, permit, hread]

end Directory

/-- The warning about what cannot be read where a command looks for its rules. -/
def rulesWarning? (directory : Directory) (name : Text) : Option Diagnostic :=
  (directory.obstacle? name).map fun fault => .unreadableIgnoreFile name (fault.message name)

/-- The reader of the ignore file does not know whether it is to be quiet. -/
lemma warnings_readIgnoreLines {options : Options} (hq : options.quiet = true) (world : World) :
    (readIgnoreLines world options).warnings =
      (rulesWarning? world.directory (ignoreName world.directory.location options)).toList := by
  unfold readIgnoreLines rulesWarning?
  simp only [Attempt.warnings_bind, hq, Bool.not_true, Bool.and_false, Bool.false_eq_true, if_false]
  generalize ignoreName world.directory.location options = name
  rw [Attempt.warnings_ofExcept fun _ => rfl, List.nil_append, Attempt.result_ofExcept,
    Directory.obstacle?_eq]
  cases hexists : world.directory.exists? name with
  | error fault => rfl
  | ok present =>
    cases present with
    | false => rfl
    | true =>
      cases hread : world.directory.read name with
      | error fault => rfl
      | ok bytes =>
        exact (Attempt.warnings_bind_of_silent fun _ _ => rfl).trans
          (Attempt.warnings_ofExcept (fun _ => rfl) _)

lemma warnings_readRules {options : Options} (hq : options.quiet = true) (world : World) :
    (readRules world options).warnings =
      (rulesWarning? world.directory (ignoreName world.directory.location options)).toList := by
  refine (Attempt.warnings_bind_of_silent fun lines _ => ?_).trans
    (warnings_readIgnoreLines hq world)
  split
  · rfl
  · exact (Attempt.warnings_bind_of_ok rfl rfl).trans (Attempt.warnings_ofExcept (fun _ => rfl) _)

/-- The warning that a command gives even if it is to be quiet.  It does not come to look for its
rules if the diff cannot be read. -/
def loudWarning? (world : World) (options : Options) : Option Diagnostic :=
  if (readSource world options.diffName).result.isOk then
    rulesWarning? world.directory (ignoreName world.directory.location options)
  else none

/-- A quiet command warns of what it cannot read in the place of its rules, and of nothing else. -/
lemma warnings_perform {options : Options} (hq : options.quiet = true) (world : World) :
    (perform world options).warnings = (loudWarning? world options).toList := by
  unfold perform loudWarning?
  cases hsource : (readSource world options.diffName).result with
  | error failure =>
    rw [Attempt.warnings_bind, warnings_readSource, hsource]
    rfl
  | ok source =>
    rw [Attempt.warnings_bind_of_ok (warnings_readSource _ _) hsource,
      Attempt.warnings_bind_of_silent fun rules _ => ?_, warnings_readRules hq]
    · rfl
    · refine (Attempt.warnings_bind_of_silent fun cleaned _ => ?_).trans
        (Attempt.warnings_ofExcept (fun _ => rfl) _)
      rw [hq]
      exact warnings_deliver world options cleaned.text

/-- What a command says that is no error is what it says of that kind on its way to deliver. -/
lemma warnings_run {world : World} {words : List Text} {options : Options}
    (h : world.options words = .ok options) (hhelp : options.help = false) :
    (run world words).said.filter (!·.isError) = (perform world options).warnings := by
  unfold Attempt.warnings Attempt.utters
  cases hp : (perform world options).result with
  | error failure => rw [run_of_perform_error h hhelp hp]
  | ok delivery =>
    rw [run_of_perform h hhelp hp, List.append_nil]
    cases delivery with
    | brokenOff path written cause =>
      rw [Outcome.ofDelivery, List.filter_append]
      exact List.append_nil _
    | toOutput text | toFile path text | none => rfl

/-! ## Asking for quiet -/

/-- Whether a flag stays set whatever else is asked for. -/
structure Options.Stays (flag : Options → Bool) : Prop where
  set : ∀ options switch, flag options = true → flag (options.set switch) = true
  give : ∀ options switch value, flag options = true → flag (options.give switch value) = true
  name : ∀ (options : Options) word, flag options = true →
    flag { options with diff := some word } = true

lemma Options.stays_help : Options.Stays (·.help) where
  set options switch h := by cases switch <;> first | exact h | rfl
  give options switch value h := by cases switch <;> exact h
  name options word h := h

lemma Options.stays_quiet : Options.Stays (·.quiet) where
  set options switch h := by cases switch <;> first | exact h | rfl
  give options switch value h := by cases switch <;> exact h
  name options word h := h

namespace Taken

variable {flag : Options → Bool} (hf : Options.Stays flag) {taken taken' : Taken}

include hf

lemma stays_bare (h : flag taken.options = true) (switch : Switch) :
    flag (taken.bare switch).options = true := by
  unfold bare
  split
  · exact h
  · exact hf.set _ _ h

lemma stays_valued {switch : Switch} {value : Text}
    (hv : taken.valued convention switch value = .ok taken') (h : flag taken.options = true) :
    flag taken'.options = true := by
  unfold valued at hv
  split at hv
  · cases hv
    exact hf.give _ _ _ h
  · contradiction

lemma stays_cluster {switch : Switch} {letters : Text}
    (hc : taken.cluster convention switch letters = .ok taken') (h : flag taken.options = true) :
    flag taken'.options = true := by
  induction letters generalizing taken switch with
  | nil =>
    cases hc
    exact stays_bare hf h switch
  | cons letter rest ih =>
    rw [cluster] at hc
    split at hc
    · exact stays_valued hf hc h
    · split at hc
      · exact stays_valued hf hc h
      · split at hc
        · exact ih hc (stays_bare hf h switch)
        · split at hc
          · cases hc
            exact stays_bare hf h switch
          · contradiction

lemma stays_word (h : flag taken.options = true) (word : Text) :
    flag (taken.word word).options = true := by
  unfold Taken.word
  split
  · exact hf.name _ _ h
  · exact h

lemma stays_take {word : Text} {argument : Argument}
    (ht : taken.take convention word argument = .ok taken') (h : flag taken.options = true) :
    flag taken'.options = true := by
  let later : Taken := { taken with namedLast := false }
  have hlater : flag later.options = true := h
  cases argument with
  | plain =>
    cases ht
    exact stays_word hf hlater word
  | separator =>
    cases ht
    split <;> exact h
  | unknown =>
    cases ht
    exact h
  | switch switch =>
    cases ht
    exact stays_bare hf hlater switch
  | valued switch value =>
    have ht : later.valued convention switch value = .ok taken' := ht
    exact stays_valued hf ht hlater
  | cluster switch letters =>
    have ht : later.cluster convention switch letters = .ok taken' := ht
    exact stays_cluster hf ht hlater

lemma stays_step {word : Text} {argument : Argument}
    (hs : taken.step convention word argument = .ok taken') (h : flag taken.options = true) :
    flag taken'.options = true := by
  unfold step at hs
  split at hs
  · split at hs
    · cases hs
      exact hf.give _ _ _ h
    · contradiction
  · split at hs
    · cases hs
      exact h
    · exact stays_take hf hs h

/-- A flag that is set is set at the end. -/
lemma stays_run {arguments : List (Text × Argument)}
    (hr : taken.run convention arguments = .ok taken') (h : flag taken.options = true) :
    flag taken'.options = true := by
  induction arguments generalizing taken with
  | nil =>
    cases hr
    exact h
  | cons first rest ih =>
    obtain ⟨word, argument⟩ := first
    rw [run_cons] at hr
    obtain ⟨next, hstep, hrest⟩ := Except.bind_eq_ok_iff.1 hr
    exact ih hrest (stays_step hf hstep h)

end Taken

/-- Whether arguments that are not refused and do not ask for help ask for quiet. -/
def AsksForQuiet (convention : Convention) (words : List Text) : Prop :=
  ∀ options, Options.ofWords convention words = .ok options → options.help = false →
    options.quiet = true

/-- Whether a word by itself is the switch for quiet, in either spelling, cut short or not. -/
def Argument.IsQuiet (convention : Convention) (word : Text) : Prop :=
  ofWord convention word = .ok (.switch .quiet)

lemma Taken.options_of_finish {taken : Taken} {options : Options}
    (h : taken.finish = .ok options) : taken.options = options := by
  unfold finish at h
  split at h
  · contradiction
  · split at h
    · exact Except.ok.inj h
    · contradiction

/-- Where the word stands, no switch waits for a value, or the arguments are refused: the word is
no value.  If help was asked for before, it does not count. -/
lemma Taken.quiet_or_help_of_step {taken taken' : Taken} {word : Text}
    (hs : taken.step convention word (.switch .quiet) = .ok taken') :
    taken'.options.help = true ∨ taken'.options.quiet = true := by
  unfold step at hs
  split at hs
  · simp at hs
  · split at hs
    · next hhelp =>
      cases hs
      exact .inl hhelp
    · cases hs
      exact .inr rfl

/-- What stands before a separator can be cut out of the words. -/
lemma exists_append_of_mem_takeWhile {words : List Text} {word : Text}
    (h : word ∈ words.takeWhile (· != separatorWord)) :
    ∃ before after, words = before ++ word :: after ∧ separatorWord ∉ before ∧
      word ≠ separatorWord := by
  obtain ⟨before, after, hsplit⟩ := List.append_of_mem h
  refine ⟨before, after ++ words.dropWhile (· != separatorWord), ?_, fun hmem => ?_, ?_⟩
  · rw [← List.cons_append, ← List.append_assoc, ← hsplit, List.takeWhile_append_dropWhile]
  · have hmem : separatorWord ∈ words.takeWhile (· != separatorWord) :=
      hsplit ▸ List.mem_append_left _ hmem
    simpa using List.mem_takeWhile_imp hmem
  · simpa using List.mem_takeWhile_imp h

/-- A word for quiet is enough, unless it comes after a separator. -/
lemma asksForQuiet_of_mem {words : List Text} {word : Text}
    (hword : word ∈ words.takeWhile (· != separatorWord))
    (hq : Argument.IsQuiet convention word) : AsksForQuiet convention words := by
  obtain ⟨before, after, rfl, hbefore, hne⟩ := exists_append_of_mem_takeWhile hword
  intro options hoptions hhelp
  rw [Options.ofWords_eq] at hoptions
  obtain ⟨last, hlast, hfinish⟩ := Except.bind_eq_ok_iff.1 hoptions
  obtain ⟨arguments, harguments, hrun⟩ := Except.bind_eq_ok_iff.1 hlast
  rw [Argument.ofWords_append hbefore, Argument.ofWords_cons hne] at harguments
  obtain ⟨first, -, harguments⟩ := Except.bind_eq_ok_iff.1 harguments
  obtain ⟨second, hsecond, rfl⟩ := Except.map_eq_ok_iff.1 harguments
  obtain ⟨argument, hargument, hsecond⟩ := Except.bind_eq_ok_iff.1 hsecond
  obtain ⟨rest, -, rfl⟩ := Except.map_eq_ok_iff.1 hsecond
  rw [Taken.run_append] at hrun
  obtain ⟨taken, -, hrun⟩ := Except.bind_eq_ok_iff.1 hrun
  rw [Taken.run_cons] at hrun
  obtain ⟨next, hstep, hrest⟩ := Except.bind_eq_ok_iff.1 hrun
  obtain rfl := Taken.options_of_finish hfinish
  obtain rfl := Except.ok.inj (hq.symm.trans hargument)
  rcases Taken.quiet_or_help_of_step hstep with hset | hset
  · rw [Taken.stays_run Options.stays_help hrest hset] at hhelp
    contradiction
  · exact Taken.stays_run Options.stays_quiet hrest hset

/-- The warning that a command with the given arguments gives even if it is to be quiet. -/
def stumble? (world : World) (words : List Text) : Option Diagnostic :=
  match world.options words with
  | .ok options => if options.help then none else loudWarning? world options
  | .error _ => none

/-- A command that is asked to be quiet, as it is by a word for the switch before any separator,
says errors only, told from all else by what their texts open with; but if it sees something that it
cannot read where it looks for its rules it says so, once.  So it says errors only exactly if there
is no such thing. -/
theorem quiet_command_warns_of_unreadable_rules_only (world : World) (words : List Text) :
    (∀ word ∈ words.takeWhile (· != separatorWord),
      Argument.IsQuiet world.convention word → AsksForQuiet world.convention words) ∧
    (AsksForQuiet world.convention words →
      (run world words).said.filter
          (fun d => !Text.opensWithAny Diagnostic.errorLeads d.render) =
        (stumble? world words).toList ∧
      ((∀ d ∈ (run world words).said, d.isError = true) ↔ stumble? world words = none)) := by
  refine ⟨fun word hword hq => asksForQuiet_of_mem hword hq, fun hasks => ?_⟩
  have hwarnings : (run world words).said.filter (!·.isError) = (stumble? world words).toList := by
    unfold stumble?
    cases hwords : world.options words with
    | error error =>
      rw [run_of_error hwords]
      rfl
    | ok options =>
      cases hhelp : options.help with
      | true =>
        rw [run_of_help hwords hhelp]
        simp [hhelp]
      | false =>
        rw [warnings_run hwords hhelp]
        simp only [hhelp]
        exact warnings_perform (hasks options hwords hhelp) world
  constructor
  · simpa only [Diagnostic.opensWithAny_errorLeads] using hwarnings
  · calc (∀ d ∈ (run world words).said, d.isError = true)
        ↔ (run world words).said.filter (!·.isError) = [] := by simp
      _ ↔ stumble? world words = none := by simp [hwarnings]

/-- The world with the small diff in a file, and an ignore file that may not be read. -/
def sealedWorld : World :=
  { smallWorld with
    directory :=
      { location := []
        entries := ([defaultIgnoreFile], .file []) :: smallWorld.directory.entries
        refusal? := fun access path =>
          if access = .read && path = [defaultIgnoreFile] then
            some ⟨13, "Permission denied".toList, true⟩
          else none } }

example :
    (run sealedWorld (["x.diff", "-q"].map String.toList)).errors =
      "Warning: Could not read /.cleandiffignore: ".toList ++
        "[Errno 13] Permission denied: '/.cleandiffignore'\n".toList := by
  decide +kernel

theorem quiet_of_smallWorld :
    "-q".toList ∈ ["x.diff", "-l", "-q", "-s"].map String.toList ∧
      AsksForQuiet smallWorld.convention (["x.diff", "-l", "-q", "-s"].map String.toList) ∧
      ∀ d ∈ (run smallWorld (["x.diff", "-l", "-q", "-s"].map String.toList)).said,
        d.isError = true := by
  obtain ⟨hspelled, hquiet⟩ := quiet_command_warns_of_unreadable_rules_only smallWorld
    (["x.diff", "-l", "-q", "-s"].map String.toList)
  have hasks := hspelled "-q".toList (by decide) rfl
  have hnone : (stumble? smallWorld (["x.diff", "-l", "-q", "-s"].map String.toList)).isNone =
      true := by
    decide +kernel
  exact ⟨by decide, hasks, (hquiet hasks).2.2 (Option.isNone_iff_eq_none.1 hnone)⟩

/-- The world with the small diff in a file, and a folder. -/
def folderWorld : World :=
  { smallWorld with
    directory :=
      { location := [], entries := (["d".toList], .folder) :: smallWorld.directory.entries } }

/-- A quiet command that is given the folder as the place of its rules warns of it. -/
theorem folder_warned_of_in_quiet :
    "-q".toList ∈ ["x.diff", "-q", "--ignore-file", "d"].map String.toList ∧
      (run folderWorld (["x.diff", "-q", "--ignore-file", "d"].map String.toList)).errors =
        "Warning: Could not read d: [Errno 21] Is a directory: 'd'\n".toList ∧
      ¬ ∀ d ∈ (run folderWorld (["x.diff", "-q", "--ignore-file", "d"].map String.toList)).said,
        d.isError = true :=
  ⟨by decide, by decide +kernel, by decide +kernel⟩

end DiffSieve
