import SExpr.ReadError

/-!
# Balanced parentheses

The parentheses of a text balance when each closing one has an opening one before it and none stays
open. Every parenthesis counts, inside a string as well. A closing one too many is blamed where it
stands; otherwise the innermost opening one still open at the end is.
-/

namespace SExpr

namespace Balance

/-- Check what follows `offset`, with the offsets of the parentheses still open, innermost first. -/
def check (opened : List Nat) (offset : Nat) : Text → Except LexError Unit
  | [] =>
    match opened with
    | [] => .ok ()
    | innermost :: _ => .error (.unclosedOpen innermost)
  | c :: after =>
    if c = '(' then check (offset :: opened) (offset + 1) after
    else if c = ')' then
      match opened with
      | [] => .error (.unmatchedClose offset)
      | _ :: outer => check outer (offset + 1) after
    else check opened (offset + 1) after

end Balance

/-- Check that the parentheses of a text balance. -/
def checkBalance (src : Text) : Except LexError Unit :=
  Balance.check [] 0 src

end SExpr
