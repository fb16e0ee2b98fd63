/-!
# Sessions

A scanner and a cursor are asked for one thing after the other, each from where the last one left them.
What one move gives is a function of the state; a session is what it gives over a sequence of moves.
-/

namespace SExpr

/-- Make moves one after the other: every answer, with the state after it. -/
def session (perform : σ → μ → α × σ) (s : σ) : List μ → List (α × σ)
  | [] => []
  | m :: moves =>
    let after := perform s m
    after :: session perform after.2 moves

end SExpr
