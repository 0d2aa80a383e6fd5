import DiffSieve.Number.Numeral
import Mathlib.Algebra.Group.Int.Defs
import Mathlib.Algebra.Group.Nat.Defs
import Mathlib.Data.List.TakeWhile

/-!
# Numerals read back

What `ofNat` writes, `read` reads, as long as it has no more digits than are converted
(`read_ofNat`).  The limit is met exactly by the numbers below `10 ^ digitLimit`, which is what
`Readable` says of an integer; a larger number is refused with its number of digits.
-/

namespace DiffSieve.Number

/-! ## Digits -/

lemma decimalValue?_digitChar {d : Nat} (h : d < 10) :
    Text.decimalValue? (Nat.digitChar d) = some d := by
  have hall : ∀ d < 10, Text.decimalValue? (Nat.digitChar d) = some d := by decide
  exact hall d h

lemma isDecimal_digitChar {d : Nat} (h : d < 10) : Text.isDecimal (Nat.digitChar d) = true := by
  rw [Text.isDecimal, decimalValue?_digitChar h]
  rfl

lemma ofNat_of_lt {n : Nat} (h : n < 10) : ofNat n = [Nat.digitChar n] := by
  rw [ofNat, if_pos h]

lemma ofNat_of_le {n : Nat} (h : 10 ≤ n) :
    ofNat n = ofNat (n / 10) ++ [Nat.digitChar (n % 10)] := by
  rw [ofNat, if_neg (by omega)]

lemma isDecimal_of_mem_ofNat {n : Nat} {c : Char} (hc : c ∈ ofNat n) :
    Text.isDecimal c = true := by
  induction n using Nat.strongRecOn with
  | ind n ih =>
    by_cases h : n < 10
    · rw [ofNat_of_lt h] at hc
      obtain rfl := List.mem_singleton.1 hc
      exact isDecimal_digitChar h
    · rw [ofNat_of_le (by omega)] at hc
      rcases List.mem_append.1 hc with hc | hc
      · exact ih (n / 10) (by omega) hc
      · obtain rfl := List.mem_singleton.1 hc
        exact isDecimal_digitChar (Nat.mod_lt n (by decide))

/-- The digits of a numeral spell its number. -/
lemma mapM_decimalValue?_ofNat (n : Nat) :
    ∃ digits, (ofNat n).mapM Text.decimalValue? = some digits ∧ ofDigits digits = n := by
  induction n using Nat.strongRecOn with
  | ind n ih =>
    by_cases h : n < 10
    · rw [ofNat_of_lt h]
      exact ⟨[n], by simp [decimalValue?_digitChar h], by simp [ofDigits]⟩
    · obtain ⟨digits, hdigits, hvalue⟩ := ih (n / 10) (by omega)
      rw [ofNat_of_le (by omega)]
      refine ⟨digits ++ [n % 10], ?_, ?_⟩
      · rw [List.mapM_append, hdigits]
        simp [decimalValue?_digitChar (Nat.mod_lt n (by decide : 0 < 10))]
      · rw [ofDigits, List.foldl_append, ← ofDigits, hvalue]
        simp only [List.foldl_cons, List.foldl_nil]
        omega

/-! ## The limit -/

lemma length_ofNat_le_iff {n k : Nat} (hk : 0 < k) : (ofNat n).length ≤ k ↔ n < 10 ^ k := by
  induction k, hk using Nat.le_induction generalizing n with
  | base =>
    by_cases h : n < 10
    · simp [ofNat_of_lt h, h]
    · have hpos := List.length_pos_iff.2 (ofNat_ne_nil (n / 10))
      rw [ofNat_of_le (by omega), List.length_append, List.length_singleton]
      omega
  | succ k hk ih =>
    by_cases h : n < 10
    · have hpow : 10 ^ 1 ≤ 10 ^ (k + 1) := Nat.pow_le_pow_right (by decide) (by omega)
      rw [ofNat_of_lt h, List.length_singleton]
      omega
    · rw [ofNat_of_le (by omega), List.length_append, List.length_singleton,
        Nat.add_le_add_iff_right, ih, Nat.div_lt_iff_lt_mul (by decide), ← Nat.pow_succ]

/-- A written number is read back if it has no more digits than are converted, and is refused
otherwise. -/
lemma read_ofNat (n : Nat) :
    read (ofNat n) =
      if n < 10 ^ digitLimit then .ok n else .error (.tooLong (ofNat n).length) := by
  have hlength := length_ofNat_le_iff (n := n) (show 0 < digitLimit by decide)
  have hdecimal : (ofNat n).takeWhile Text.isDecimal = ofNat n :=
    List.takeWhile_eq_self_iff.2 fun _ hc => isDecimal_of_mem_ofNat hc
  obtain ⟨digits, hdigits, hvalue⟩ := mapM_decimalValue?_ofNat n
  unfold read
  rw [hdecimal]
  by_cases h : n < 10 ^ digitLimit
  · have hle := hlength.2 h
    rw [if_pos h, if_neg (by omega), hdigits]
    simp only [hvalue]
  · have hlt : digitLimit < (ofNat n).length := Nat.lt_of_not_le fun hle => h (hlength.1 hle)
    rw [if_pos hlt, if_neg h]

/-- Whether an integer is written as a numeral that is read back. -/
def Readable (n : Int) : Prop :=
  0 ≤ n ∧ n < 10 ^ digitLimit

lemma readable_natCast {n : Nat} : Readable n ↔ n < 10 ^ digitLimit := by
  have hcast : ((10 ^ digitLimit : Nat) : Int) = 10 ^ digitLimit := by
    rw [Int.natCast_pow, Int.cast_ofNat_Int]
  unfold Readable
  rw [← hcast]
  generalize 10 ^ digitLimit = limit
  omega

instance (n : Int) : Decidable (Readable n) :=
  decidable_of_iff (0 ≤ n ∧ n.toNat < 10 ^ digitLimit) <| by
    refine and_congr_right fun hn => ?_
    obtain ⟨k, rfl⟩ := Int.eq_ofNat_of_zero_le hn
    rw [Int.toNat_natCast, ← readable_natCast, Readable]
    exact ⟨fun h => h.2, fun h => ⟨hn, h⟩⟩

lemma Readable.read_ofInt {n : Int} (h : Readable n) :
    ∃ k : Nat, n = k ∧ read (ofInt n) = .ok k := by
  obtain ⟨k, rfl⟩ := Int.eq_ofNat_of_zero_le h.1
  refine ⟨k, rfl, ?_⟩
  rw [show ofInt k = ofNat k from rfl, read_ofNat, if_pos (readable_natCast.1 h)]

lemma readable_of_read {n k : Nat} (h : read (ofNat n) = .ok k) : Readable n := by
  rw [read_ofNat] at h
  split at h
  · next hlt => exact readable_natCast.2 hlt
  · contradiction

end DiffSieve.Number
