import DiffSieve.Text.Basic

/-!
# Classes of characters given by ranges

A class that a standard defines by enumeration is a table of ranges of code points, each with
both of its ends, in ascending order.
-/

namespace DiffSieve.Text

/-- A class of characters: ranges of code points, ends included. -/
abbrev Ranges := List (Nat × Nat)

/-- Whether one of the ranges holds the character. -/
def Ranges.covers (ranges : Ranges) (c : Char) : Bool :=
  ranges.any fun (first, last) => first ≤ c.toNat && c.toNat ≤ last

theorem Ranges.covers_iff {ranges : Ranges} {c : Char} :
    ranges.covers c = true ↔ ∃ r ∈ ranges, r.1 ≤ c.toNat ∧ c.toNat ≤ r.2 := by
  simp [Ranges.covers]

end DiffSieve.Text
