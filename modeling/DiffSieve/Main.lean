import DiffSieve.Command.Run
import DiffSieve.Ignore.Gitignore

/-!
# The program

Looks at the files that the arguments name, runs the command on what it saw, and carries out what
the command decided.  Rules are read as gitignore lines, arguments by the newer convention, and no
encoding is at hand.
-/

namespace DiffSieve

/-- What is shown to those who ask for help, on a screen of 80 columns. -/
def helpText : Text :=
  (String.intercalate "\n" [
    "usage: cleandiff [-h] [-o OUTPUT] [-a] [--whitespace] [--comments] [--quotes]",
    "                 [--trailing-commas] [--semicolons] [--imports] [--line-wrap]",
    "                 [--language LANGUAGE] [-x PATTERN]",
    "                 [--ignore-file IGNORE_FILE] [-s] [-l] [-q]",
    "                 [diff_file]",
    "",
    "Strip formatting-only noise from a unified diff so only meaningful edits",
    "remain.",
    "",
    "positional arguments:",
    "  diff_file             Diff file to clean ('-' for stdin)",
    "",
    "options:",
    "  -h, --help            show this help message and exit",
    "  -o OUTPUT, --output OUTPUT",
    "                        Write the cleaned diff here (default: stdout)",
    "  --language LANGUAGE   Language hint (advisory)",
    "  -x PATTERN, --exclude PATTERN",
    "                        Gitignore-style pattern of files to pass through",
    "                        untouched (repeatable)",
    "  --ignore-file IGNORE_FILE",
    "                        File of pass-through patterns (default:",
    "                        ./.cleandiffignore if present)",
    "  -s, --stats           Print a summary to stderr",
    "  -l, --list-changes    List detected formatting changes on stderr",
    "  -q, --quiet           Suppress warnings, --stats and --list-changes output",
    "",
    "formatting categories (all enabled when none is given):",
    "  -a, --all             Ignore every formatting category",
    "  --whitespace          Ignore whitespace-only changes and blank lines",
    "  --comments            Ignore comment-only changes",
    "  --quotes              Ignore quote-style changes",
    "  --trailing-commas     Ignore added/removed trailing commas",
    "  --semicolons          Ignore optional semicolons",
    "  --imports             Ignore import reordering (JS/TS/Vue/Svelte/Go)",
    "  --line-wrap           Ignore line-wrapping changes (JS/TS/Vue/Svelte)",
    ""]).toList

/-- What was seen at a path of the file tree. -/
inductive Sight where
  | nothing
  | node (node : Node)
  | unreadable (refusal : Refusal)

/-- Looks at a path of the file tree.  What cannot be read because it is no file is taken for a
directory. -/
def probe (path : Path) : IO Sight := do
  try
    return .node (.file (← IO.FS.readBinFile (String.ofList (Path.render path))).toList)
  catch e =>
    match e with
    | .inappropriateType .. => return .node .folder
    | .permissionDenied _ code details => return .unreadable ⟨code.toNat, details.toList, true⟩
    | _ => return .nothing

/-- What stands at each of some paths.  A file that cannot be read is there nonetheless. -/
def snapshot (location : Path) (paths : List Path) : IO Directory := do
  let seen ← paths.mapM fun path => do return (path, ← probe path)
  let entries := seen.filterMap fun (path, sight) =>
    match sight with
    | .nothing => none
    | .node node => some (path, node)
    | .unreadable _ => some (path, .file [])
  let refusal? (access : Access) (path : Path) : Option Refusal :=
    match access, seen.find? (·.1 = path) with
    | .read, some (_, .unreadable refusal) => some refusal
    | _, _ => none
  return { location, entries, refusal? }

/-- All that is left of a stream. -/
partial def readAll (stream : IO.FS.Stream) (read : List UInt8) : IO (List UInt8) := do
  let bytes ← stream.read 65536
  if bytes.isEmpty then return read else readAll stream (read ++ bytes.toList)

/-- The text of the standard input; its line ends are left as they are. -/
def readInput : IO (Except InputFault Text) := do
  let bytes ← readAll (← IO.getStdin) []
  match Text.Utf8.decode bytes with
  | .ok text => return .ok text
  | .error fault => return .error (.unreadable fault.message)

/-- The world of a command with the given arguments.  The standard input is read only if it is
the diff. -/
def lookAround (words : List Text) : IO World := do
  let location := Path.steps (← IO.currentDir).toString.toList
  let bare : World :=
    { directory := { location, entries := [] }, input := .ok [], convention := .newer,
      help := helpText, rules := gitignore, load := fun _ => none }
  match bare.options words with
  | .error _ => return bare
  | .ok options =>
    let directory ← snapshot location (pathsUsed location options)
    let input ←
      if options.diffName = Options.standardInput && !options.help then readInput else pure (.ok [])
    return { bare with directory, input }

/-- Carries out a delivery; false if the file cannot be written after all. -/
def carryOut : Delivery → IO Bool
  | .none => return true
  | .brokenOff .. => return false
  | .toOutput text => do
    (← IO.getStdout).putStr (String.ofList text)
    return true
  | .toFile path text => do
    try
      IO.FS.writeFile (String.ofList (Path.render path)) (String.ofList text)
      return true
    catch e =>
      let cause := Diagnostic.unwritableOutput (toString e).toList
      (← IO.getStderr).putStr (String.ofList cause.render)
      return false

end DiffSieve

open DiffSieve in
/-- The program. -/
def main (arguments : List String) : IO UInt32 := do
  let words := arguments.map String.toList
  let outcome := run (← lookAround words) words
  (← IO.getStderr).putStr (String.ofList outcome.errors)
  if ← carryOut outcome.delivery then return outcome.exit.toUInt32 else return 1
