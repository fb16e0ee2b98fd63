import SExpr.Value

/-!
# Values as text

A list is written as its items between two brackets, with a separator between each two; an atom is
written as it is. Two such layouts are in use: one for people, in square brackets with commas, and
one that is source text again, in parentheses with spaces.
-/

namespace SExpr

/-- How lists are written. -/
structure Layout where
  opening : Text
  separator : Text
  closing : Text
  deriving DecidableEq, Repr

namespace Layout

/-- The layout for people: `[+, 1, [2, 3]]`. -/
def bracketed : Layout :=
  ⟨['['], [',', ' '], [']']⟩

/-- The layout of source text: `(+ 1 (2 3))`. -/
def parenthesised : Layout :=
  ⟨['('], [' '], [')']⟩

/-- A value in a layout. -/
def write (layout : Layout) : Value → Text :=
  Tree.fold Atom.text fun parts =>
    layout.opening ++ layout.separator.intercalate parts ++ layout.closing

@[simp]
theorem write_atom (layout : Layout) (a : Atom) : layout.write (.atom a) = a.text := by
  simp [write]

@[simp]
theorem write_list (layout : Layout) (items : List Value) :
    layout.write (.list items) =
      layout.opening ++ layout.separator.intercalate (items.map layout.write) ++
        layout.closing := by
  simp [write]

end Layout

/-- A value for people to read. -/
def Value.render : Value → Text :=
  Layout.bracketed.write

/-- A value as source text. -/
def Value.source : Value → Text :=
  Layout.parenthesised.write

end SExpr
