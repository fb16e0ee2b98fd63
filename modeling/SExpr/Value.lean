import SExpr.Text.Numeral
import SExpr.Token
import SExpr.Tree

/-!
# Values

A value is an atom or a list of values. Atoms are integers, symbols and strings. A symbol remembers
the kind of token it was read from, but symbols of one name are the same symbol.
-/

namespace SExpr

/-- A value that is no list. -/
inductive Atom where
  | int (value : Int)
  | sym (name : Text) (kind : TokenKind := .identifier)
  /-- A string as it is written: read from a text it holds its quotes. -/
  | str (text : Text)
  deriving DecidableEq, Repr, Inhabited

/-- An atom or a list of values. -/
abbrev Value := Tree Atom

namespace Atom

/-- The atom with nothing in it that does not matter to whether two atoms are the same. -/
def bare : Atom → Atom
  | .sym name _ => .sym name .identifier
  | a => a

/-- How an atom is written. -/
def text : Atom → Text
  | .int n => Numeral.ofInt n
  | .sym name _ => name
  | .str s => s

@[simp]
theorem text_bare (a : Atom) : a.bare.text = a.text := by
  cases a <;> rfl

end Atom

namespace Value

/-- The value with the kinds of its symbols forgotten. -/
def bare : Value → Value :=
  Tree.map Atom.bare

/-- Two values are the same when they agree up to the kinds of their symbols. -/
def Same (v w : Value) : Prop :=
  bare v = bare w

instance : DecidableRel Same := fun v w =>
  inferInstanceAs (Decidable (bare v = bare w))

end Value

end SExpr
