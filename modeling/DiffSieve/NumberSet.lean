/-!
# Finite sets of line numbers

A set of numbers is the ascending list of its members, so equal sets are equal lists and a
report can print the members as they stand.
-/

namespace DiffSieve

/-- An ascending list with one more number put in its place, if it is not there already. -/
def insertAscending (n : Int) : List Int → List Int
  | [] => [n]
  | m :: rest =>
    if n < m then n :: m :: rest
    else if n = m then m :: rest
    else m :: insertAscending n rest

theorem mem_insertAscending {n k : Int} {members : List Int} :
    k ∈ insertAscending n members ↔ k = n ∨ k ∈ members := by
  induction members with
  | nil => simp [insertAscending]
  | cons m rest ih =>
    simp only [insertAscending]
    split
    · simp
    · split
      · next h => simp [h]
      · simp only [List.mem_cons, ih]
        constructor
        · rintro (h | h | h) <;> simp [h]
        · rintro (h | h | h) <;> simp [h]

theorem pairwise_insertAscending {n : Int} {members : List Int}
    (h : members.Pairwise (· < ·)) : (insertAscending n members).Pairwise (· < ·) := by
  induction members with
  | nil => simp [insertAscending]
  | cons m rest ih =>
    obtain ⟨hm, hr⟩ := List.pairwise_cons.1 h
    simp only [insertAscending]
    split
    · next hlt =>
      refine List.pairwise_cons.2 ⟨fun k hk => ?_, h⟩
      rcases List.mem_cons.1 hk with rfl | hk
      · exact hlt
      · exact Int.lt_trans hlt (hm k hk)
    · split
      · exact h
      · refine List.pairwise_cons.2 ⟨fun k hk => ?_, ih hr⟩
        rcases mem_insertAscending.1 hk with rfl | hk
        · omega
        · exact hm k hk

/-- A finite set of numbers. -/
structure NumberSet where
  toList : List Int
  ascending : toList.Pairwise (· < ·)
  deriving DecidableEq

namespace NumberSet

instance : Membership Int NumberSet where
  mem numbers n := n ∈ numbers.toList

instance (n : Int) (numbers : NumberSet) : Decidable (n ∈ numbers) :=
  inferInstanceAs (Decidable (n ∈ numbers.toList))

/-- The set without members. -/
def empty : NumberSet :=
  ⟨[], .nil⟩

/-- Whether a set has no members. -/
def isEmpty (numbers : NumberSet) : Bool :=
  numbers.toList.isEmpty

/-- A set with one more number. -/
def insert (n : Int) (numbers : NumberSet) : NumberSet :=
  ⟨insertAscending n numbers.toList, pairwise_insertAscending numbers.ascending⟩

/-- The set of the numbers in a list. -/
def ofList (numbers : List Int) : NumberSet :=
  numbers.foldr insert empty

/-- The numbers in one of two sets. -/
def union (first second : NumberSet) : NumberSet :=
  first.toList.foldr insert second

theorem mem_toList {n : Int} {numbers : NumberSet} : n ∈ numbers.toList ↔ n ∈ numbers :=
  Iff.rfl

@[simp] theorem not_mem_empty (n : Int) : ¬ n ∈ empty := by
  simp [← mem_toList, empty]

@[simp] theorem mem_insert {n k : Int} {numbers : NumberSet} :
    k ∈ insert n numbers ↔ k = n ∨ k ∈ numbers :=
  mem_insertAscending

theorem mem_foldr_insert {n : Int} {numbers : List Int} {base : NumberSet} :
    n ∈ numbers.foldr insert base ↔ n ∈ numbers ∨ n ∈ base := by
  induction numbers with
  | nil => simp
  | cons m rest ih => simp [ih, or_assoc]

@[simp] theorem mem_ofList {n : Int} {numbers : List Int} : n ∈ ofList numbers ↔ n ∈ numbers := by
  simp [ofList, mem_foldr_insert]

@[simp] theorem mem_union {n : Int} {first second : NumberSet} :
    n ∈ union first second ↔ n ∈ first ∨ n ∈ second := by
  simp [union, mem_foldr_insert, mem_toList]

end NumberSet
end DiffSieve
