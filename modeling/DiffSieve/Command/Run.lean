import DiffSieve.Command.Diagnostic
import DiffSieve.Ignore.Rules
import DiffSieve.Text.Utf8

/-!
# Running a command

A command reads a diff, sieves it and delivers what is left to one place.  It is a function of
its arguments and of the world it runs in: the file tree, the standard input and the libraries it
calls.  It stops at the first failure and then delivers nothing; what it has said until then
stands.
-/

namespace DiffSieve

/-- Why no text comes from the standard input. -/
inductive InputFault where
  /-- It cannot be read or decoded. -/
  | unreadable (cause : Text)
  /-- Any other fault, such as that it was closed. -/
  | other (cause : Text)
  deriving DecidableEq

/-- What a command runs in.  Of the libraries nothing is assumed. -/
structure World where
  directory : Directory
  /-- The text of the standard input as it is handed over.  How it is decoded, and whether its line
  ends are made equal, is for the system to settle. -/
  input : Except InputFault Text
  /-- How arguments are parsed. -/
  convention : Convention
  /-- What is shown to those who ask for help; it depends on the width of the screen. -/
  help : Text
  /-- What reads the rules for paths that pass through. -/
  rules : RuleReader
  /-- What loads an encoding by its name. -/
  load : Text → Option Encoding

/-- The options that some arguments ask for. -/
def World.options (world : World) (arguments : List Text) : Except UsageError Options :=
  Options.ofWords world.convention arguments

/-- Where the result goes. -/
inductive Delivery where
  | toOutput (text : Text)
  | toFile (path : Path) (text : Text)
  /-- Writing the file broke off, with some bytes of the text written. -/
  | brokenOff (path : Path) (written : List UInt8) (cause : Text)
  | none
  deriving DecidableEq

/-- What a command did: its exit code, what it said, and what it delivered. -/
structure Outcome where
  exit : Nat
  said : List Diagnostic
  delivery : Delivery

/-! ## Attempts -/

/-- A computation that may say something on the way and may fail. -/
structure Attempt (α : Type) where
  said : List Diagnostic
  result : Except Diagnostic α

namespace Attempt

/-- Goes on with the result, unless the attempt has failed. -/
def andThen {α β : Type} (attempt : Attempt α) (next : α → Attempt β) : Attempt β :=
  match attempt.result with
  | .ok a =>
    let later := next a
    ⟨attempt.said ++ later.said, later.result⟩
  | .error d => ⟨attempt.said, .error d⟩

instance : Monad Attempt where
  pure a := ⟨[], .ok a⟩
  bind := andThen

/-- Says something. -/
def say (diagnostics : List Diagnostic) : Attempt Unit :=
  ⟨diagnostics, .ok ()⟩

/-- Fails with the diagnostic for an error. -/
def ofExcept {ε α : Type} (diagnose : ε → Diagnostic) (result : Except ε α) : Attempt α :=
  ⟨[], result.mapError diagnose⟩

end Attempt

/-- The diagnostic for a file that cannot be opened: an error of its own if the operating system
reports the fault, and an unexpected one otherwise. -/
def diagnosePath (name : Text) (asOwn : Text → Diagnostic) (fault : PathFault) : Diagnostic :=
  match fault with
  | .reported refusal => asOwn (refusal.message name)
  | .nullInName => .unexpected (fault.message name)

/-- The diagnostic for a fault of the standard input. -/
def diagnoseInput : InputFault → Diagnostic
  | .unreadable cause => .unreadableDiff Options.standardInput cause
  | .other cause => .unexpected cause

/-! ## Reading -/

/-- The text in the file of a name, with its line ends made equal.  The name is tidied before it is
followed. -/
def readFile (directory : Directory) (name : Text) : Attempt Text := do
  let tidied := Path.tidy name
  let bytes ← Attempt.ofExcept (diagnosePath tidied (.unreadableDiff name)) (directory.read tidied)
  let text ← Attempt.ofExcept (.unreadableDiff name ·.message) (Text.Utf8.decode bytes)
  return Text.unifyLineEnds text

/-- The text of the diff. -/
def readSource (world : World) (name : Text) : Attempt Text :=
  if name = Options.standardInput then Attempt.ofExcept diagnoseInput world.input
  else readFile world.directory name

/-- The name of the ignore file that is looked for if none is given. -/
def defaultIgnoreFile : Text := ".cleandiffignore".toList

/-- The name under which the ignore file is looked for. -/
def ignoreName (location : Path) (options : Options) : Text :=
  match Options.nonempty options.ignoreFile with
  | some name => Path.tidy name
  | none => Path.render (location ++ [defaultIgnoreFile])

/-- The lines of the ignore file.  A file that does not exist has none, which is worth a warning
only if it was asked for; one that cannot be opened has none either. -/
def readIgnoreLines (world : World) (options : Options) : Attempt (List Text) := do
  let name := ignoreName world.directory.location options
  let present ← Attempt.ofExcept (fun (fault : PathFault) => .unexpected (fault.message name))
    (world.directory.exists? name)
  if present then
    match world.directory.read name with
    | .ok bytes =>
      let text ← Attempt.ofExcept (.unexpected ·.message) (Text.Utf8.decodeStream bytes)
      return Rules.fileLines text
    | .error fault =>
      Attempt.say [.unreadableIgnoreFile name (fault.message name)]
      return []
  else
    if (Options.nonempty options.ignoreFile).isSome && !options.quiet then
      Attempt.say [.missingIgnoreFile name]
    return []

/-- The rules for paths that pass through.  Refused rules are those of no lines at all. -/
def readRules (world : World) (options : Options) : Attempt Rules := do
  let lines ← readIgnoreLines world options
  match world.rules (lines ++ options.excludes) with
  | .ok rules => return rules
  | .error cause =>
    Attempt.say [.refusedRules cause]
    Attempt.ofExcept .unexpected (world.rules [])

/-! ## Reporting -/

/-- The warnings about hunks that do not hold what they announce. -/
def inconsistencies (files : List File) : List Diagnostic :=
  files.flatMap fun file =>
    (file.hunks.filter (!·.isConsistent)).map (.inconsistentHunk file.path)

/-- Numbers as the table shows them. -/
def numberList (numbers : NumberSet) : Except Number.Fault Text := do
  let written ← numbers.toList.mapM Number.write
  return if written.isEmpty then ['-'] else [','].intercalate written

/-- The row of a change. -/
def reportChange (change : Change) : Attempt Unit := do
  let unexpected (fault : Number.Fault) : Diagnostic := .unexpected fault.message
  let old ← Attempt.ofExcept unexpected (numberList change.flagged.old)
  let new ← Attempt.ofExcept unexpected (numberList change.flagged.new)
  Attempt.say [.tableRow change old new]

/-- The table of changes. -/
def reportChanges (changes : List Change) : Attempt Unit := do
  Attempt.say [.tableHead]
  changes.forM reportChange
  Attempt.say [.tableFoot]

/-- What is said of a result, as far as it is asked for. -/
def report (world : World) (options : Options) (source : Text) (cleaned : Cleaned) :
    Attempt Unit := do
  Attempt.say (inconsistencies cleaned.source)
  if options.listChanges then reportChanges cleaned.sieved.changes
  if options.stats then
    let savings := Savings.ofTexts (Encoding.choose world.load) source cleaned.text
    Attempt.say [.summary cleaned.statistics savings]

/-! ## Delivering -/

/-- What becomes of the file of a name at a path that a text is written to. -/
def fill (directory : Directory) (name : Text) (path : Path) (text : Text) : Delivery :=
  match directory.breaks? path with
  | none => .toFile path text
  | some (count, refusal) =>
    .brokenOff path ((Text.Utf8.encode text).take count) (refusal.message name)

/-- Where the result goes: to the file that is named, if any, and to the output otherwise. -/
def deliver (world : World) (options : Options) (text : Text) : Attempt Delivery :=
  match Options.nonempty options.output with
  | none => pure (.toOutput text)
  | some name =>
    Attempt.ofExcept (diagnosePath name .unwritableOutput)
      ((world.directory.writable name).map fun path => fill world.directory name path text)

/-- All that a command does once its arguments are understood. -/
def perform (world : World) (options : Options) : Attempt Delivery := do
  let source ← readSource world options.diffName
  let rules ← readRules world options
  let cleaned ← Attempt.ofExcept (fun (fault : Number.Fault) => .unexpected fault.message)
    (clean options.config rules.passes source)
  unless options.quiet do report world options source cleaned
  deliver world options cleaned.text

/-- The paths that a command at the given place may look at. -/
def pathsUsed (location : Path) (options : Options) : List Path :=
  let names := [options.diffName, ignoreName location options] ++
    (Options.nonempty options.output).toList
  (names.flatMap fun name => Path.along (Path.start location name) (Path.steps name)).eraseDups

/-- The outcome of a command that came to deliver its result, after it said something. -/
def Outcome.ofDelivery (said : List Diagnostic) : Delivery → Outcome
  | .brokenOff path written cause =>
    ⟨1, said ++ [.unwritableOutput cause], .brokenOff path written cause⟩
  | delivery => ⟨0, said, delivery⟩

/-- What a command does. -/
def run (world : World) (arguments : List Text) : Outcome :=
  match world.options arguments with
  | .error error => ⟨2, [.usage error], .none⟩
  | .ok options =>
    if options.help then ⟨0, [], .toOutput world.help⟩
    else
      let attempt := perform world options
      match attempt.result with
      | .ok delivery => .ofDelivery attempt.said delivery
      | .error failure => ⟨1, attempt.said ++ [failure], .none⟩

namespace Outcome

/-- What goes to the standard output. -/
def output (outcome : Outcome) : Text :=
  match outcome.delivery with
  | .toOutput text => text
  | _ => []

/-- What goes to the standard error output. -/
def errors (outcome : Outcome) : Text :=
  outcome.said.flatMap Diagnostic.render

/-- The file tree afterwards. -/
def directory (outcome : Outcome) (before : Directory) : Directory :=
  match outcome.delivery with
  | .toFile path text => before.write path (Text.Utf8.encode text)
  | .brokenOff path written _ => before.write path written
  | _ => before

end Outcome
end DiffSieve
