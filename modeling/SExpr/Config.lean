/-!
# How a text is read

The choices a caller makes about reading. There is also a bound that no caller asks for: a reader
holds only so many lists open at once.
-/

namespace SExpr

/-- How a text is read. -/
structure Config where
  /-- How deep lists may nest. Below one no list is read, but atoms are. -/
  maxDepth : Int := 256
  /-- Is a string without its last quote refused? Otherwise the quote is supplied. -/
  strictStrings : Bool := false
  /-- How many lists can be open at once, whatever `maxDepth` is; no bound if there is none. -/
  capacity : Option Nat := some 1000
  deriving DecidableEq, Repr, Inhabited

end SExpr
