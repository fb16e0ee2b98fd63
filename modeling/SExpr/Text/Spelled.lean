import SExpr.Text.Blank
import SExpr.Text.Numeral

/-!
# Integers as people spell them

An integer given by hand may stand between blanks, have a sign, use the digits of any script, and
group its digits by single underscores. It may not be longer than the conversion takes.
-/

namespace SExpr.Spelled

/-- May the character surround an integer? The four separators of fields and records may not,
though they are blank. -/
def isMargin (c : Char) : Bool :=
  isBlank c && !(0x1C ≤ c.toNat && c.toNat ≤ 0x1F)

/-- The text without the margins at both ends. -/
def trimmed (s : Text) : Text :=
  ((s.dropWhile isMargin).reverse.dropWhile isMargin).reverse

/-- The digits of a grouped numeral: an underscore may stand between any two digits. -/
def ungrouped? : Text → Option Text
  | [] => none
  | [c] => if isDecimal c then some [c] else none
  | c :: '_' :: rest => if isDecimal c then (ungrouped? rest).map (c :: ·) else none
  | c :: rest => if isDecimal c then (ungrouped? rest).map (c :: ·) else none

/-- The number that a grouped numeral of at most `limit` digits stands for. -/
def natural? (limit : Nat) (s : Text) : Option Nat :=
  match ungrouped? s with
  | some digits => if digits.length ≤ limit then some (Numeral.value digits) else none
  | none => none

/-- The integer that a text of at most `limit` digits spells. -/
def integer? (limit : Nat) (s : Text) : Option Int :=
  match trimmed s with
  | '-' :: digits => (natural? limit digits).map fun n => -(n : Int)
  | '+' :: digits => (natural? limit digits).map fun n => (n : Int)
  | digits => (natural? limit digits).map fun n => (n : Int)

end SExpr.Spelled
