import SExpr.Text.Ranges

/-!
# Blank characters

White space: what separates tokens and belongs to none.
-/

namespace SExpr

/-- White space of Unicode 14.0: the space separators, and the controls that end a line, a paragraph
or a field. -/
def blankRanges : Ranges :=
  [(0x9, 0xD), (0x1C, 0x20), (0x85, 0x85), (0xA0, 0xA0), (0x1680, 0x1680), (0x2000, 0x200A),
   (0x2028, 0x2029), (0x202F, 0x202F), (0x205F, 0x205F), (0x3000, 0x3000)]

/-- Is this character white space? -/
def isBlank (c : Char) : Bool :=
  blankRanges.holds c.toNat

end SExpr
