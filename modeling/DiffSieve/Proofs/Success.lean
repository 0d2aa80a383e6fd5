import Mathlib.Tactic.Lemma

/-!
# When a computation succeeds

What is made of several computations that may fail succeeds exactly if each of them does, and these
are the equations that take it apart.
-/

namespace DiffSieve

variable {ε α β : Type}

lemma Except.map_eq_ok_iff {x : Except ε α} {f : α → β} {b : β} :
    x.map f = .ok b ↔ ∃ a, x = .ok a ∧ f a = b := by
  cases x <;> simp [Except.map]

lemma Except.map_eq_error_iff {x : Except ε α} {f : α → β} {e : ε} :
    x.map f = .error e ↔ x = .error e := by
  cases x <;> simp [Except.map]

lemma Except.bind_eq_ok_iff {x : Except ε α} {f : α → Except ε β} {b : β} :
    x.bind f = .ok b ↔ ∃ a, x = .ok a ∧ f a = .ok b := by
  cases x <;> simp [Except.bind]

lemma Except.mapError_eq_ok_iff {ε' : Type} {x : Except ε α} {f : ε → ε'} {a : α} :
    x.mapError f = .ok a ↔ x = .ok a := by
  cases x with
  | error e =>
    constructor
    · intro h
      contradiction
    · intro h
      contradiction
  | ok b =>
    show Except.ok b = .ok a ↔ Except.ok b = .ok a
    rw [Except.ok.injEq, Except.ok.injEq]

/-- Why a computation fails, if it does. -/
def failure? (x : Except ε α) : Option ε :=
  match x with
  | .ok _ => none
  | .error e => some e

@[simp] lemma failure?_ok (a : α) : failure? (Except.ok a : Except ε α) = none := rfl

@[simp] lemma failure?_error (e : ε) : failure? (Except.error e : Except ε α) = some e := rfl

lemma failure?_eq_some_iff {x : Except ε α} {e : ε} : failure? x = some e ↔ x = .error e := by
  cases x <;> simp

lemma isSome_failure?_iff {x : Except ε α} :
    (failure? x).isSome = true ↔ ¬ ∃ a, x = .ok a := by
  cases x <;> simp

@[simp] lemma failure?_map (x : Except ε α) (f : α → β) : failure? (x.map f) = failure? x := by
  cases x <;> rfl

/-- Where what comes next fails alike for every value, the first of the two failures is found. -/
lemma failure?_bind {x : Except ε α} {f : α → Except ε β} {failure : Option ε}
    (h : ∀ a, x = .ok a → failure? (f a) = failure) :
    failure? (x.bind f) = (failure? x).or failure := by
  cases x with
  | ok a => exact h a rfl
  | error e => rfl

end DiffSieve
