import DiffSieve.Number.Decimal
import DiffSieve.Text.Digit
import DiffSieve.Text.Quoted

/-!
# Numerals that are read and written

A numeral is a run of decimal digits, of any script and even of several scripts at once.  Its
length is limited in both directions, since the work of converting it grows with the square of
its length: a longer one is refused.
-/

namespace DiffSieve.Number

/-- The greatest number of digits that is converted. -/
def digitLimit : Nat := 4300

/-- Why a numeral is refused. -/
inductive Fault where
  /-- It opens with this many decimal digits, more than are converted. -/
  | tooLong (digits : Nat)
  /-- It holds a character that is no decimal digit. -/
  | notDecimal (word : Text)
  /-- The number to be written has more digits than are converted. -/
  | tooLarge
  deriving DecidableEq

namespace Fault

/-- The words common to the two messages about the limit. -/
def overLimit : Text :=
  "Exceeds the limit (4300 digits) for integer string conversion".toList

/-- The advice that closes the two messages about the limit. -/
def advice : Text :=
  "; use sys.set_int_max_str_digits() to increase the limit".toList

/-- The message for a fault.  The quoted word is cut after two hundred characters. -/
def message : Fault → Text
  | tooLong digits =>
    overLimit ++ ": value has ".toList ++ ofNat digits ++ " digits".toList ++ advice
  | notDecimal word =>
    "invalid literal for int() with base 10: ".toList ++ (Text.quoted word).take 200
  | tooLarge => overLimit ++ advice

end Fault

/-- The number whose decimal digits are given, the most significant first. -/
def ofDigits (digits : List Nat) : Nat :=
  digits.foldl (10 * · + ·) 0

/-- Reads a numeral.  Of the two faults the excess of digits is found first. -/
def read (word : Text) : Except Fault Nat :=
  let leading := (word.takeWhile Text.isDecimal).length
  if digitLimit < leading then .error (.tooLong leading)
  else match word.mapM Text.decimalValue? with
    | some digits => .ok (ofDigits digits)
    | none => .error (.notDecimal word)

/-- Writes an integer, unless it has too many digits. -/
def write (n : Int) : Except Fault Text :=
  if Nat.pow 10 digitLimit ≤ n.natAbs then .error .tooLarge else .ok (ofInt n)

end DiffSieve.Number
