import DiffSieve.Ignore.Gitignore
import DiffSieve.Proofs.Command.Arguments

/-!
# All or nothing

A command either delivers the whole cleaned text to one place or delivers nothing, and what it is
asked to say has no part in that.  The one thing to mind is where a switch stands: between the word
that names the diff and a separator right after it, it takes the separator away from that word, and
then nothing takes the separator (`separator_left_over`).
-/

namespace DiffSieve

lemma run_of_error {world : World} {words : List Text} {error : UsageError}
    (h : world.options words = .error error) :
    run world words = ⟨2, [.usage error], .none⟩ := by
  rw [run, h]

lemma run_of_help {world : World} {words : List Text} {options : Options}
    (h : world.options words = .ok options) (hhelp : options.help = true) :
    run world words = ⟨0, [], .toOutput world.help⟩ := by
  rw [run, h]
  exact if_pos hhelp

lemma run_of_perform_error {world : World} {words : List Text} {options : Options}
    (h : world.options words = .ok options) (hhelp : options.help = false) {failure : Diagnostic}
    (hp : (perform world options).result = .error failure) :
    run world words = ⟨1, (perform world options).said ++ [failure], .none⟩ := by
  simp [run, h, hhelp, hp]

lemma run_of_perform {world : World} {words : List Text} {options : Options}
    (h : world.options words = .ok options) (hhelp : options.help = false) {delivery : Delivery}
    (hp : (perform world options).result = .ok delivery) :
    run world words = .ofDelivery (perform world options).said delivery := by
  simp [run, h, hhelp, hp]

/-- A world with the small diff in a file, and nothing else. -/
def smallWorld : World where
  directory :=
    { location := []
      entries := [(["x.diff".toList], .file (sampleText.map fun c => UInt8.ofNat c.toNat))] }
  input := .ok []
  convention := .newer
  help := []
  rules := gitignore
  load := fun _ => none

end DiffSieve
