import DiffSieve.Number.Decimal

/-!
# Percentages in binary floating point

A share is reported as a percentage that went through two roundings to 53 significant binary
digits, half to even: once when the part is divided by the whole, once when the quotient is
multiplied by one hundred.  The result is then rounded half to even to the decimal places
asked for.  All of it is exact arithmetic on natural numbers: a number on the way is a fraction
`num / den`, and a range of exponents is not needed, since shares are never extreme.
-/

namespace DiffSieve.Number

/-- The natural number nearest to `num / den`; of two equally near ones the even one. -/
def nearest (num den : Nat) : Nat :=
  let quotient := num / den
  let twice := 2 * (num % den)
  if twice < den then quotient
  else if den < twice then quotient + 1
  else quotient + quotient % 2

/-- A fraction of natural numbers. -/
structure Fraction where
  num : Nat
  den : Nat

/-- How many significant binary digits are kept. -/
def precision : Nat := 53

/-- The nearest fraction with 53 significant binary digits, of two equally near ones the even
one.  With `num / 2 ^ down` between 1 and 2 and `2 ^ up / den` between `2 ^ 52` and `2 ^ 53`, the
scaled quotient has 53 or 54 binary digits before the point, and in the second case it is halved. -/
def Fraction.rounded (x : Fraction) : Fraction :=
  if x.num = 0 then ⟨0, 1⟩
  else
    let up := precision + x.den.log2
    let scaled := x.num * Nat.pow 2 up
    let down := x.num.log2
    let down := if scaled / (x.den * Nat.pow 2 down) < Nat.pow 2 precision then down else down + 1
    ⟨nearest scaled (x.den * Nat.pow 2 down) * Nat.pow 2 down, Nat.pow 2 up⟩

/-- A part of a whole. -/
structure Share where
  part : Int
  whole : Nat
  deriving DecidableEq

namespace Share

/-- The size of the percentage, its sign left aside; zero for a part of nothing. -/
def percent (share : Share) : Fraction :=
  if share.whole = 0 then ⟨0, 1⟩
  else
    let quotient := Fraction.rounded ⟨share.part.natAbs, share.whole⟩
    Fraction.rounded ⟨quotient.num * 100, quotient.den⟩

/-- The digits of a number of units of the last of `places` decimal places, with the point. -/
def withPoint (places units : Nat) : Text :=
  let digits := ofNat (units % Nat.pow 10 places)
  ofNat (units / Nat.pow 10 places) ++ '.' :: List.replicate (places - digits.length) '0' ++ digits

/-- The percentage with the given number of decimal places.  A negative share keeps its sign
even where all the digits shown are zero. -/
def render (places : Nat) (share : Share) : Text :=
  let x := share.percent
  let digits := withPoint places (nearest (x.num * Nat.pow 10 places) x.den)
  if share.part < 0 && share.whole ≠ 0 then '-' :: digits else digits

end Share
end DiffSieve.Number
