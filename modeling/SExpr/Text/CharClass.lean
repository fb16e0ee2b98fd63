import SExpr.Text.Blank
import SExpr.Text.Decimal
import SExpr.Text.Letter

/-!
# Character classes

The classes whose runs a scanner can take, and the characters that are operators by themselves.
-/

namespace SExpr

/-- A class of characters that may form a run. -/
inductive CharClass where
  | blank
  | decimal
  | letter
  | identifier
  deriving DecidableEq, Repr

/-- May this character continue an identifier? A hyphen may, so a name can be written in parts. -/
def isIdentifierChar (c : Char) : Bool :=
  isLetter c || isDecimal c || c == '-'

/-- Is this character an operator by itself? -/
def isOperator (c : Char) : Bool :=
  c ∈ ['+', '-', '*', '/', '<', '>', '=', ',']

/-- Is the character in the class? -/
def CharClass.holds : CharClass → Char → Bool
  | .blank => isBlank
  | .decimal => isDecimal
  | .letter => isLetter
  | .identifier => isIdentifierChar

end SExpr
