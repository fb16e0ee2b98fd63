import SExpr.ReadError

/-!
# The integer of a number token

A number token stands for the integer its digits give, in whatever scripts they are, as long as that
fits in 64 bits with a sign. A numeral that is plainly too long is refused before it is converted.
-/

namespace SExpr

/-- The largest integer. -/
def maxInteger : Nat := Nat.pow 2 63 - 1

/-- The most digits an integer in range can have. -/
def maxIntegerDigits : Nat := 19

/-- The integer that a number token stands for. -/
def Token.integer (t : Token) : Except ParseError Nat :=
  if !Numeral.isValid t.text then .error (.numeral (.malformed t.text))
  else if maxIntegerDigits < (t.text.dropWhile (· == '0')).length then
    .error (.integerOutOfRange t)
  else if maxNumeralLength < t.text.length then .error (.numeral (.tooLong t.text.length))
  else if maxInteger < Numeral.value t.text then .error (.integerOutOfRange t)
  else .ok (Numeral.value t.text)

end SExpr
