import SExpr.Text.Numeral
import SExpr.Text.Printable

/-!
# Quoted texts

A text is quoted to be shown inside a message: in single quotes, or in double quotes when it holds
a single quote and no double quote. What would not show as itself is escaped.
-/

namespace SExpr.Quoted

/-- The quote that encloses a text: the double one only if that saves an escape. -/
def enclosing (s : Text) : Char :=
  if '\x27' ∈ s ∧ '"' ∉ s then '"' else '\x27'

/-- The escape of a character by its code point, in the shortest of three widths. -/
def codePoint (c : Char) : Text :=
  if c.toNat < 0x100 then ['\\', 'x'] ++ Numeral.hexadecimal 2 c.toNat
  else if c.toNat < 0x10000 then ['\\', 'u'] ++ Numeral.hexadecimal 4 c.toNat
  else ['\\', 'U'] ++ Numeral.hexadecimal 8 c.toNat

/-- One character inside quotes. -/
def escape (quote c : Char) : Text :=
  if c = '\\' ∨ c = quote then ['\\', c]
  else if c = '\t' then ['\\', 't']
  else if c = '\n' then ['\\', 'n']
  else if c = '\r' then ['\\', 'r']
  else if isPrintable c then [c]
  else codePoint c

/-- A text in quotes. -/
def encode (s : Text) : Text :=
  enclosing s :: s.flatMap (escape (enclosing s)) ++ [enclosing s]

end SExpr.Quoted
