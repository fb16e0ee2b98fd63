import SExpr.Text
import SExpr.Text.Decimal

/-!
# Numerals

A numeral is read as a positional number in base ten, whatever scripts its digits are from, and
written in the ASCII digits without leading zeros.
-/

namespace SExpr.Numeral

/-- Is the text a numeral: digits, and at least one? -/
def isValid (s : Text) : Bool :=
  !s.isEmpty && s.all isDecimal

/-- The number that a run of decimal digits stands for. -/
def value (digits : Text) : Nat :=
  digits.foldl (fun n c => 10 * n + (digitValue? c).getD 0) 0

/-- The digits of a natural number. -/
def ofNat (n : Nat) : Text :=
  Nat.toDigits 10 n

/-- The digits of an integer, after a hyphen when it is negative. -/
def ofInt : Int → Text
  | .ofNat n => ofNat n
  | .negSucc n => '-' :: ofNat (n + 1)

/-- The last `width` hexadecimal digits of a number, in lower case. -/
def hexadecimal : (width : Nat) → Nat → Text
  | 0, _ => []
  | width + 1, n => hexadecimal width (n / 16) ++ [Nat.digitChar (n % 16)]

/-- One more digit at the end multiplies by ten and adds. -/
theorem value_concat (digits : Text) (c : Char) :
    value (digits ++ [c]) = 10 * value digits + (digitValue? c).getD 0 := by
  simp [value]

end SExpr.Numeral
