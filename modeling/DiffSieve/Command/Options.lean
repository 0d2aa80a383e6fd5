import DiffSieve.Command.Switch
import DiffSieve.Noise.Config
import DiffSieve.Text.Digit
import DiffSieve.Text.Quoted

/-!
# Arguments of the command line

Each argument is a plain word, a switch, possibly with a text attached, or an unknown switch;
after a lone `--` all are plain words.  The first plain word that no switch takes as its value
names the diff.  Words that nothing takes are refused together at the end, all other faults
where they stand.

The library that parses arguments has changed its mind on a few points over the years.  Which of
them it holds to is a `Convention`, and nothing is assumed of it.
-/

namespace DiffSieve

/-- The points on which the ages of the argument library disagree. -/
structure Convention where
  /-- An equals sign after the letter of a switch opens its value, and goes with the letter only. -/
  equalsOpensValue : Bool
  /-- A letter of no switch, where letters are run together, is left over with those after it. -/
  leavesStrayLetters : Bool
  /-- Two dashes attached to a switch are a value like any other. -/
  keepsDashes : Bool
  deriving DecidableEq

namespace Convention

/-- The library before its repairs. -/
def older : Convention :=
  ⟨false, false, false⟩

/-- The library since then. -/
def newer : Convention :=
  ⟨true, true, true⟩

end Convention

/-- Why the arguments are refused. -/
inductive UsageError where
  /-- A long spelling was cut too short. -/
  | ambiguous (word : Text) (candidates : List Switch)
  /-- A text was attached to a switch that takes no value, and no switch opens it. -/
  | ignoredValue (switch : Switch) (value : Text)
  /-- A switch lacks its value. -/
  | missingValue (switch : Switch)
  /-- Nothing takes these words. -/
  | unrecognized (words : List Text)
  deriving DecidableEq

/-- The message for refused arguments. -/
def UsageError.message : UsageError → Text
  | ambiguous word candidates =>
    "ambiguous option: ".toList ++ word ++ " could match ".toList ++
      ", ".toList.intercalate (candidates.map Switch.long)
  | ignoredValue switch value =>
    "argument ".toList ++ switch.spelling ++ ": ignored explicit argument ".toList ++
      Text.quoted value
  | missingValue switch =>
    "argument ".toList ++ switch.spelling ++ ": expected one argument".toList
  | unrecognized words => "unrecognized arguments: ".toList ++ [' '].intercalate words

/-! ## Kinds of arguments -/

/-- The word after which all words are plain. -/
def separatorWord : Text := ['-', '-']

/-- What an argument is. -/
inductive Argument where
  /-- A word that is no switch. -/
  | plain
  /-- The word after which all are plain. -/
  | separator
  /-- A switch by itself, in either spelling. -/
  | switch (switch : Switch)
  /-- A switch with a text attached that can be nothing but its value. -/
  | valued (switch : Switch) (value : Text)
  /-- A switch in its short spelling with the text right after its letter: the value of the switch,
  or the letters of more switches. -/
  | cluster (switch : Switch) (letters : Text)
  /-- It looks like a switch and is none. -/
  | unknown
  deriving DecidableEq

/-- Whether a text is one or more decimal digits; a final line feed is passed over. -/
def isNumeral (text : Text) : Bool :=
  let digits := Text.dropFinal '\n' text
  !digits.isEmpty && digits.all Text.isDecimal

/-- Whether a word is a negative number, with or without a decimal point. -/
def isNegativeNumber : Text → Bool
  | '-' :: rest =>
    isNumeral rest ||
      match Text.cut ['.'] rest with
      | some (whole, fraction) => whole.all Text.isDecimal && isNumeral fraction
      | none => false
  | _ => false

/-- What a word that matches no switch is. -/
def Argument.unmatched (word : Text) : Argument :=
  if isNegativeNumber word || word.contains ' ' then plain else unknown

/-- What a word with two dashes is, given its spelling and what a switch so spelled is.  A spelling
that is cut short stands for the only switch it can. -/
def Argument.ofSpelling (word spelling : Text) (spelled : Switch → Argument) :
    Except UsageError Argument :=
  match Switch.ofLong? spelling with
  | some s => .ok (spelled s)
  | none =>
    match Switch.abbreviated spelling with
    | [] => .ok (unmatched word)
    | [s] => .ok (spelled s)
    | candidates => .error (.ambiguous word candidates)

/-- What a word with two dashes is.  An equals sign ends its spelling and opens a value. -/
def Argument.ofLong (word : Text) : Except UsageError Argument :=
  match Text.cut ['='] word with
  | some (spelling, value) => ofSpelling word spelling (valued · value)
  | none => ofSpelling word word switch

/-- What a switch in its short spelling is with the text right after its letter.  By the older
convention an equals sign there is passed over, unless nothing comes after it. -/
def Argument.ofShort (convention : Convention) (s : Switch) : Text → Argument
  | [] => switch s
  | '=' :: rest =>
    if convention.equalsOpensValue || rest.isEmpty then valued s rest else cluster s rest
  | letters => cluster s letters

/-- What a word is.  With one dash, only the letter right after it tells. -/
def Argument.ofWord (convention : Convention) (word : Text) : Except UsageError Argument :=
  match word with
  | ['-', '-'] => .ok separator
  | '-' :: '-' :: _ => ofLong word
  | '-' :: letter :: rest =>
    match Switch.ofLetter? letter with
    | some s => .ok (ofShort convention s rest)
    | none => .ok (unmatched word)
  | _ => .ok plain

/-- What each word is.  The first ambiguous one refuses them all. -/
def Argument.ofWords (convention : Convention) :
    List Text → Except UsageError (List (Text × Argument))
  | [] => .ok []
  | word :: rest => do
    let argument ← ofWord convention word
    if argument = separator then return (word, separator) :: rest.map (·, plain)
    else return (word, argument) :: (← ofWords convention rest)

/-! ## Options -/

/-- What the arguments ask for. -/
structure Options where
  help : Bool := false
  diff : Option Text := none
  output : Option Text := none
  all : Bool := false
  categories : List Category := []
  language : Option Text := none
  excludes : List Text := []
  ignoreFile : Option Text := none
  stats : Bool := false
  listChanges : Bool := false
  quiet : Bool := false
  deriving DecidableEq

namespace Options

/-- The options with a switch set that takes no value. -/
def set (options : Options) : Switch → Options
  | .help => { options with help := true }
  | .all => { options with all := true }
  | .category category => { options with categories := options.categories ++ [category] }
  | .stats => { options with stats := true }
  | .listChanges => { options with listChanges := true }
  | .quiet => { options with quiet := true }
  | .output | .language | .exclude | .ignoreFile => options

/-- The options with the value of a switch.  The last value counts, but patterns add up. -/
def give (options : Options) (switch : Switch) (value : Text) : Options :=
  match switch with
  | .output => { options with output := some value }
  | .language => { options with language := some value }
  | .exclude => { options with excludes := options.excludes ++ [value] }
  | .ignoreFile => { options with ignoreFile := some value }
  | _ => options

end Options

/-! ## Taking arguments in turn -/

/-- What has been taken so far: the options, the words that nothing took, the last of them first,
the switch that waits for its value, and whether the word before was the one that names the
diff. -/
structure Taken where
  options : Options := {}
  extras : List Text := []
  waiting : Option Switch := none
  namedLast : Bool := false
  deriving DecidableEq

namespace Taken

/-- Takes a switch with nothing attached. -/
def bare (taken : Taken) (switch : Switch) : Taken :=
  if switch.takesValue then { taken with waiting := some switch }
  else { taken with options := taken.options.set switch }

/-- Leaves a word that nothing takes. -/
def leave (taken : Taken) (word : Text) : Taken :=
  { taken with extras := word :: taken.extras }

/-- Takes a switch with a text attached that can be nothing but its value.  By the older
convention two dashes by themselves are no value: they count as an empty one. -/
def valued (convention : Convention) (taken : Taken) (switch : Switch) (value : Text) :
    Except UsageError Taken :=
  if switch.takesValue then
    let value := if value = separatorWord && !convention.keepsDashes then [] else value
    .ok { taken with options := taken.options.give switch value }
  else .error (.ignoredValue switch value)

/-- Takes a short switch and the text right after its letter: the value of the switch, or the
letters of more switches. -/
def cluster (convention : Convention) (taken : Taken) (switch : Switch) :
    Text → Except UsageError Taken
  | [] => .ok (taken.bare switch)
  | letter :: rest =>
    if letter = '=' && convention.equalsOpensValue then taken.valued convention switch rest
    else if switch.takesValue then taken.valued convention switch (letter :: rest)
    else
      match Switch.ofLetter? letter with
      | some next => (taken.bare switch).cluster convention next rest
      | none =>
        if convention.leavesStrayLetters && letter != '-' then
          .ok ((taken.bare switch).leave ('-' :: letter :: rest))
        else .error (.ignoredValue switch (letter :: rest))

/-- Takes a plain word that no switch waits for. -/
def word (taken : Taken) (word : Text) : Taken :=
  match taken.options.diff with
  | none => { taken with options := { taken.options with diff := some word }, namedLast := true }
  | some _ => taken.leave word

/-- Takes the value that a switch waits for. -/
def value (taken : Taken) (switch : Switch) (word : Text) : Taken :=
  { taken with options := taken.options.give switch word, waiting := none }

/-- Takes one argument that no switch waits for.  A separator goes with the word that names the
diff if it stands right after it or anywhere before it; otherwise nothing takes it. -/
def take (convention : Convention) (taken : Taken) (word : Text) (argument : Argument) :
    Except UsageError Taken :=
  let later := { taken with namedLast := false }
  match argument with
  | .plain => .ok (later.word word)
  | .separator =>
    .ok (if taken.namedLast || taken.options.diff.isNone then later else later.leave word)
  | .switch switch => .ok (later.bare switch)
  | .valued switch value => later.valued convention switch value
  | .cluster switch letters => later.cluster convention switch letters
  | .unknown => .ok (later.leave word)

/-- Takes one argument.  A switch that waits for its value takes a plain word and nothing else.
Once help is asked for, the arguments after it do not count. -/
def step (convention : Convention) (taken : Taken) (word : Text) (argument : Argument) :
    Except UsageError Taken :=
  match taken.waiting with
  | some switch =>
    if argument = .plain then .ok (taken.value switch word) else .error (.missingValue switch)
  | none => if taken.options.help then .ok taken else taken.take convention word argument

/-- Takes some arguments in turn. -/
def run (convention : Convention) (taken : Taken) (arguments : List (Text × Argument)) :
    Except UsageError Taken :=
  arguments.foldlM (fun (t : Taken) (word, argument) => t.step convention word argument) taken

/-- The options, if no switch waits for its value and no word is left.  Help is given also if
some words are left. -/
def finish (taken : Taken) : Except UsageError Options :=
  match taken.waiting with
  | some switch => .error (.missingValue switch)
  | none =>
    if taken.options.help || taken.extras.isEmpty then .ok taken.options
    else .error (.unrecognized taken.extras.reverse)

end Taken

namespace Options

/-- The options that some arguments ask for. -/
def ofWords (convention : Convention) (words : List Text) : Except UsageError Options := do
  let arguments ← Argument.ofWords convention words
  let taken ← Taken.run convention {} arguments
  taken.finish

/-- The name that stands for standard input. -/
def standardInput : Text := ['-']

/-- The name of the diff. -/
def diffName (options : Options) : Text :=
  options.diff.getD standardInput

/-- The choice of categories.  Naming none chooses them all. -/
def config (options : Options) : Config :=
  if options.all || options.categories.isEmpty then .full options.language
  else .ofPredicate options.categories.contains options.language

/-- The value of an option that counts as not given if it is empty. -/
def nonempty (value : Option Text) : Option Text :=
  value.filter (!·.isEmpty)

end Options
end DiffSieve
