import DiffSieve.Number.Decimal
import DiffSieve.Text.Quoted

/-!
# Directories

As much of a file tree as a command can come to know: what stands at each path, counted from the
root, where in the tree the command runs, and what the operating system refuses to have done where.
A name is followed through the tree step by step; every step but the last must lead to a directory.
-/

namespace DiffSieve

/-- What stands at a path. -/
inductive Node where
  | file (content : List UInt8)
  | folder
  deriving DecidableEq

/-- The names along a path, from the root. -/
abbrev Path := List Text

/-- A fault that the operating system reports. -/
structure Refusal where
  number : Nat
  wording : Text
  /-- Whether the report names the file, as it does unless the file had been opened. -/
  namesFile : Bool := true
  deriving DecidableEq

/-- The message for a fault with the file of a name. -/
def Refusal.message (refusal : Refusal) (name : Text) : Text :=
  "[Errno ".toList ++ Number.ofNat refusal.number ++ "] ".toList ++ refusal.wording ++
    if refusal.namesFile then ": ".toList ++ Text.quoted name else []

/-- What can be done at a path. -/
inductive Access where
  | look
  | read
  | write
  deriving DecidableEq

/-- A file tree and a place in it. -/
structure Directory where
  location : Path
  entries : List (Path × Node)
  /-- What the operating system refuses. -/
  refusal? : Access → Path → Option Refusal := fun _ _ => none
  /-- Where writing to an open file breaks off: after how many bytes, and why. -/
  breaks? : Path → Option (Nat × Refusal) := fun _ => none

/-- Why a file cannot be opened. -/
inductive PathFault where
  | reported (refusal : Refusal)
  /-- The name holds a character that ends names. -/
  | nullInName
  deriving DecidableEq

namespace PathFault

/-- Nothing stands at the path. -/
def missing : PathFault :=
  reported ⟨2, "No such file or directory".toList, true⟩

/-- A step of the name that is not the last leads to a file. -/
def notFolder : PathFault :=
  reported ⟨20, "Not a directory".toList, true⟩

/-- A directory stands at the path. -/
def isFolder : PathFault :=
  reported ⟨21, "Is a directory".toList, true⟩

/-- The name, or a step of it, is too long. -/
def nameTooLong : PathFault :=
  reported ⟨36, "File name too long".toList, true⟩

/-- The message for a fault with the file of a name. -/
def message (fault : PathFault) (name : Text) : Text :=
  match fault with
  | reported refusal => refusal.message name
  | nullInName => "embedded null byte".toList

/-- The numbers of the faults that count as that nothing is there: no such file, no such open
file, no directory on the way, and a link that leads to itself. -/
def absentNumbers : List Nat :=
  [2, 9, 20, 40]

/-- Whether a fault counts as that nothing is there. -/
def meansAbsent : PathFault → Bool
  | reported refusal => absentNumbers.contains refusal.number
  | nullInName => true

end PathFault

/-! ## Names -/

/-- The name of the place itself and of the one above it. -/
def here : Text := ['.']

/-- The name of the directory that holds a directory. -/
def above : Text := ['.', '.']

namespace Path

/-- The steps of a name, those that lead nowhere left out. -/
def steps (name : Text) : Path :=
  (name.splitOn '/').filter fun step => !step.isEmpty && step != here

/-- The slashes that a name from the root keeps: two if there are just two, and one otherwise. -/
def rootMark (name : Text) : Text :=
  match (name.takeWhile (· = '/')).length with
  | 0 => []
  | 2 => ['/', '/']
  | _ => ['/']

/-- A name without steps that lead nowhere; the name of the place itself if nothing is left. -/
def tidy (name : Text) : Text :=
  let text := rootMark name ++ ['/'].intercalate (steps name)
  if text.isEmpty then here else text

/-- The name of a path from the root. -/
def render (path : Path) : Text :=
  '/' :: ['/'].intercalate path

/-- Where a name starts from, for a command that runs at the given place. -/
def start (location : Path) (name : Text) : Path :=
  if name.head? = some '/' then [] else location

/-- All the paths that some steps pass through. -/
def along (path : Path) : List Text → List Path
  | [] => [path]
  | step :: rest => path :: along (if step = above then path.dropLast else path ++ [step]) rest

end Path

namespace Directory

/-- What stands at a path. -/
def node? (directory : Directory) (path : Path) : Option Node :=
  if path.isEmpty then some .folder
  else (directory.entries.find? (·.1 = path)).map (·.2)

/-- Checks that something is not refused at a path. -/
def permit (directory : Directory) (access : Access) (path : Path) : Except PathFault Unit :=
  match directory.refusal? access path with
  | some refusal => .error (.reported refusal)
  | none => .ok ()

/-- What stands at a path, if it may be looked at. -/
def look (directory : Directory) (path : Path) : Except PathFault Node := do
  directory.permit .look path
  match directory.node? path with
  | some node => return node
  | none => throw .missing

/-- Checks that a directory stands at a path. -/
def enter (directory : Directory) (path : Path) : Except PathFault Unit := do
  match ← directory.look path with
  | .folder => return ()
  | .file _ => throw .notFolder

/-- The greatest number of bytes in a name. -/
def nameLimit : Nat := 4095

/-- The greatest number of bytes in the name of one step. -/
def stepLimit : Nat := 255

/-- How many bytes a name takes up. -/
def byteCount (name : Text) : Nat :=
  (String.ofList name).utf8ByteSize

/-- One step from a path. -/
def step (directory : Directory) (path : Path) (name : Text) : Except PathFault Path := do
  directory.enter path
  if name = here then return path
  else if name = above then return path.dropLast
  else if stepLimit < byteCount name then throw .nameTooLong
  else return path ++ [name]

/-- Checks that no character of a name ends it, and that the name as a whole is not too long. -/
def checkName (name : Text) : Except PathFault Unit :=
  if name.contains '\x00' then .error .nullInName
  else if nameLimit < byteCount name then .error .nameTooLong
  else .ok ()

/-- The path that a name leads to, tidied; nothing need stand there. -/
def find (directory : Directory) (name : Text) : Except PathFault Path := do
  checkName name
  (Path.steps name).foldlM directory.step (Path.start directory.location name)

/-- Whether anything stands at the path that a name leads to.  Some faults are no answer. -/
def exists? (directory : Directory) (name : Text) : Except PathFault Bool :=
  match directory.find name >>= directory.look with
  | .ok _ => .ok true
  | .error fault => if fault.meansAbsent then .ok false else .error fault

/-- The content of the file that a name leads to. -/
def read (directory : Directory) (name : Text) : Except PathFault (List UInt8) := do
  let path ← directory.find name
  let node ← directory.look path
  directory.permit .read path
  match node with
  | .file content => return content
  | .folder => throw .isFolder

/-- The path at which a file of the given name can be written.  The name is followed as it
stands: a slash at its end, or a last step that is no name, makes it the name of a directory. -/
def writable (directory : Directory) (name : Text) : Except PathFault Path := do
  checkName name
  let steps := (name.splitOn '/').filter (!·.isEmpty)
  match steps.getLast? with
  | none => throw .isFolder
  | some last =>
    let parent ← steps.dropLast.foldlM directory.step (Path.start directory.location name)
    directory.enter parent
    if last = here || last = above || name.getLast? = some '/' then throw .isFolder
    let path ← directory.step parent last
    directory.permit .look path
    if directory.node? path = some .folder then throw .isFolder
    directory.permit .write path
    return path

/-- The tree after a file of the given content was written at a path. -/
def write (directory : Directory) (path : Path) (content : List UInt8) : Directory :=
  { directory with
    entries := (path, .file content) :: directory.entries.filter (·.1 ≠ path) }

end Directory
end DiffSieve
