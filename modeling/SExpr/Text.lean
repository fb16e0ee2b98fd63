/-!
# Texts

A text is a list of characters: an offset counts characters, whatever their encoded size, and every
operation on texts is a list operation.
-/

namespace SExpr

/-- A text: its characters in order. -/
abbrev Text := List Char

end SExpr
