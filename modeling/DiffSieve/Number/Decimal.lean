import DiffSieve.Text.Basic

/-!
# Decimal numerals

How numbers are written: the digits of the value without leading zeros, after a minus sign if
it is negative; and hexadecimal digits in a field of fixed width.
-/

namespace DiffSieve.Number

/-- The decimal digits of a natural number, without leading zeros. -/
def ofNat (n : Nat) : Text :=
  if n < 10 then [Nat.digitChar n] else ofNat (n / 10) ++ [Nat.digitChar (n % 10)]

/-- The decimal digits of an integer, after a minus sign if it is negative. -/
def ofInt : Int → Text
  | .ofNat n => ofNat n
  | .negSucc n => '-' :: ofNat (n + 1)

/-- The last `width` hexadecimal digits of a natural number. -/
def hexadecimal : (width n : Nat) → Text
  | 0, _ => []
  | width + 1, n => hexadecimal width (n / 16) ++ [Nat.digitChar (n % 16)]

theorem ofNat_ne_nil (n : Nat) : ofNat n ≠ [] := by
  rw [ofNat]
  split <;> simp

end DiffSieve.Number
